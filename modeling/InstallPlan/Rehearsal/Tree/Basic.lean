import InstallPlan.Fault
import InstallPlan.Rehearsal.Raw

/-!
# Rehearsal — File tree

A file system in memory: an array of nodes, of which the first is the root
directory. A directory holds names and the numbers of the nodes that they stand
for, so that one file can have several names, and a symbolic link holds a path.
-/

namespace InstallPlan

namespace IoFault

/-- There is already something of that name. -/
def alreadyThere : IoFault := .other "File exists"

/-- A directory that should be empty is not. -/
def notEmpty : IoFault := .other "Directory not empty"

/-- The operation makes no sense for its operands. -/
def invalid : IoFault := .other "Invalid argument"

/-- The channel is closed, or not meant for this. -/
def badChannel : IoFault := .other "Bad file descriptor"

/-- There is no room for what is written. -/
def noRoom : IoFault := .other "No space left on device"

/-- Not even the owner may do that. -/
def notPermitted : IoFault := .other "Operation not permitted"

end IoFault

namespace Rehearsal

/-- A special file. -/
inductive Device where
  /-- Always empty, and swallows all. -/
  | null
  /-- Endless octets of value zero. -/
  | zero
  /-- Endless octets of value zero, and no room for any. -/
  | full
  /-- Whatever a channel of the program leads to. -/
  | channel (number : Nat)
  deriving DecidableEq

/-- What a node of the file system is. -/
inductive Entry where
  | directory (parent : Nat) (names : List (Raw × Nat))
  | file (content : Raw)
  | link (target : Raw)
  /-- A program that comes with the system. -/
  | program (name : String)
  | device (device : Device)
  /-- A queue, and what waits in it. -/
  | queue (content : Raw)

/-- A node of the file system. -/
structure Node where
  entry : Entry
  /-- Who may do what with it, as nine bits. -/
  mode : Nat
  /-- When it was changed last, in nanoseconds. -/
  stamp : Int := 0

/-- A file system. -/
structure Tree where
  nodes : Array Node := #[{ entry := .directory 0 [], mode := 0o755 }]

/-- The greatest length of a name. -/
def maxName : Nat := 255

/-- The greatest length of a path. -/
def maxPath : Nat := 4095

namespace Entry

/-- Whether a node is a directory. -/
def isDirectory : Entry → Bool
  | .directory _ _ => true
  | _ => false

/-- Whether a node is a file that holds octets. -/
def isRegular : Entry → Bool
  | .file _ | .program _ => true
  | _ => false

/-- Whether a node is a symbolic link. -/
def isLink : Entry → Bool
  | .link _ => true
  | _ => false

/-- Whether a node is a device. -/
def isDevice : Entry → Bool
  | .device _ => true
  | _ => false

/-- Whether a node is a queue. -/
def isQueue : Entry → Bool
  | .queue _ => true
  | _ => false

/-- The number of octets in a node. A program counts as one octet. -/
def size : Entry → Nat
  | .file content => content.length
  | .link target => target.length
  | .program _ => 1
  | .directory _ _ => 4096
  | .device _ | .queue _ => 0

end Entry

namespace Node

/-- Whether anyone may carry out a file, or enter a directory. -/
def isExecutable (node : Node) : Bool := node.mode &&& 0o111 != 0

end Node

namespace Tree

/-- The number of the root directory. -/
def root : Nat := 0

/-- The node of a number. -/
def node? (tree : Tree) (number : Nat) : Option Node := tree.nodes[number]?

/-- What the node of a number is. -/
def entry? (tree : Tree) (number : Nat) : Option Entry := (tree.node? number).map (·.entry)

/-- The tree with one node changed. -/
def update (number : Nat) (f : Node → Node) (tree : Tree) : Tree :=
  ⟨tree.nodes.modify number f⟩

/-- The tree with what a node is changed. -/
def setEntry (number : Nat) (entry : Entry) (tree : Tree) : Tree :=
  tree.update number fun node => { node with entry }

/-- The names in a directory and what they stand for, in the order in which they
were made. -/
def members (tree : Tree) (number : Nat) : List (Raw × Nat) :=
  match tree.entry? number with
  | some (.directory _ names) => names
  | _ => []

/-- The directory that a directory lies in. -/
def parent (tree : Tree) (number : Nat) : Nat :=
  match tree.entry? number with
  | some (.directory parent _) => parent
  | _ => root

/-- Whether a number is that of a directory. -/
def isDirectory (tree : Tree) (number : Nat) : Bool :=
  (tree.entry? number).any Entry.isDirectory

/-- What a name in a directory stands for. -/
def member? (tree : Tree) (directory : Nat) (name : Raw) : Option Nat :=
  ((tree.members directory).find? (·.1 = name)).map (·.2)

/-- The tree with the names in a directory changed. -/
def setMembers (directory : Nat) (names : List (Raw × Nat)) (tree : Tree) : Tree :=
  tree.setEntry directory (.directory (tree.parent directory) names)

/-- The tree with a name in a directory for a node. -/
def enter (directory : Nat) (name : Raw) (number : Nat) (tree : Tree) : Tree :=
  let names := tree.members directory
  let names :=
    if names.any (·.1 = name) then names.map fun e => if e.1 = name then (name, number) else e
    else names ++ [(name, number)]
  tree.setMembers directory names

/-- The tree without a name in a directory. -/
def leave (directory : Nat) (name : Raw) (tree : Tree) : Tree :=
  tree.setMembers directory ((tree.members directory).filter (·.1 ≠ name))

/-- A new node in a directory, and its number. -/
def create (directory : Nat) (name : Raw) (node : Node) (tree : Tree) : Nat × Tree :=
  let number := tree.nodes.size
  (number, enter directory name number ⟨tree.nodes.push node⟩)

/-- The number of names of a node; a directory has one more for every directory
in it, and one for itself. -/
def nameCount (tree : Tree) (number : Nat) : Nat :=
  match tree.entry? number with
  | some (.directory _ names) => 2 + (names.filter fun e => tree.isDirectory e.2).length
  | _ =>
    tree.nodes.foldl
      (fun count node =>
        match node.entry with
        | .directory _ names => count + (names.filter (·.2 = number)).length
        | _ => count)
      0

/-- The names that lead from the root to a directory, in at most so many steps. -/
def placeOf (tree : Tree) : Nat → Nat → List Raw
  | 0, _ => []
  | steps + 1, number =>
    if number = root then []
    else
      let above := tree.parent number
      match (tree.members above).find? (·.2 = number) with
      | some (name, _) => tree.placeOf steps above ++ [name]
      | none => []

/-- The path from the root to a directory. -/
def pathOf (tree : Tree) (number : Nat) : Raw :=
  match tree.placeOf tree.nodes.size number with
  | [] => ['/']
  | names => names.flatMap ('/' :: ·)

end Tree

end Rehearsal

end InstallPlan

import InstallPlan.Rehearsal.Tree.Walk

/-!
# Rehearsal — Changing a file tree

The changes that a program can ask for: new files, directories, links and names,
and names taken away. Each of them is made as a whole or refused.
-/

namespace InstallPlan

namespace Rehearsal

/-- Nine bits without those of a mask. -/
def masked (mask mode : Nat) : Nat := mode &&& (0o7777 ^^^ mask)

namespace Tree

/-- A place for a new name that a path leads to. -/
def vacancy (tree : Tree) (here : Nat) (path : Raw) : Except IoFault (Nat × Raw) :=
  match tree.spot here path false with
  | .error fault => .error fault
  | .ok ⟨_, _, some _, _⟩ => .error .alreadyThere
  | .ok ⟨directory, name, none, _⟩ => .ok (directory, name)

/-- Makes a directory. -/
def makeDirectory (here : Nat) (path : Raw) (mode : Nat) (stamp : Int) (tree : Tree) :
    Except IoFault Tree :=
  match tree.vacancy here path with
  | .error fault => .error fault
  | .ok (directory, name) =>
    .ok (tree.create directory name { entry := .directory directory [], mode, stamp }).2

/-- Makes a node that is no directory. -/
def makeNode (here : Nat) (path : Raw) (node : Node) (tree : Tree) : Except IoFault Tree :=
  match tree.spot here path false with
  | .error fault => .error fault
  | .ok ⟨_, _, some _, _⟩ => .error .alreadyThere
  | .ok ⟨directory, name, none, slash⟩ =>
    if slash then .error .notFound else .ok (tree.create directory name node).2

/-- Gives a node another name. -/
def linkTo (here : Nat) (number : Nat) (path : Raw) (tree : Tree) : Except IoFault Tree :=
  match tree.vacancy here path with
  | .error fault => .error fault
  | .ok (directory, name) =>
    if tree.isDirectory number then .error .notPermitted else .ok (tree.enter directory name number)

/-- Takes a name away that is not that of a directory. -/
def removeName (here : Nat) (path : Raw) (tree : Tree) : Except IoFault Tree :=
  match tree.spot here path false with
  | .error fault => .error fault
  | .ok ⟨_, _, none, _⟩ => .error .notFound
  | .ok ⟨directory, name, some number, slash⟩ =>
    if tree.isDirectory number then .error .isADirectory
    else if slash then .error .notADirectory
    else .ok (tree.leave directory name)

/-- Whether a path ends in a name that stands for the directory itself. -/
def endsInDots (path : Raw) : Bool :=
  let last := ((path.reverse.dropWhile (· = '/')).takeWhile (· ≠ '/')).reverse
  last = ['.'] || last = ['.', '.']

/-- Takes an empty directory away. -/
def removeDirectory (here : Nat) (path : Raw) (tree : Tree) : Except IoFault Tree :=
  match tree.spot here path false with
  | .error fault => .error fault
  | .ok ⟨_, _, none, _⟩ => .error .notFound
  | .ok ⟨directory, name, some number, _⟩ =>
    if !tree.isDirectory number then .error .notADirectory
    else if endsInDots path then
      .error (if Raw.dropEnd (· = '/') path |>.dropLast |>.getLast? |>.any (· = '.') then .notEmpty
        else .invalid)
    else if !(tree.members number).isEmpty then .error .notEmpty
    else if name = [] then .error (.other "Device or resource busy")
    else .ok (tree.leave directory name)

/-- Whether a directory lies in another one, or is it, in at most so many steps. -/
def isWithin (tree : Tree) (outer : Nat) : Nat → Nat → Bool
  | 0, _ => false
  | steps + 1, number =>
    number = outer || (number != root && tree.isWithin outer steps (tree.parent number))

/-- Moves what one path leads to, to where another one leads. What stood there
is given up if it is of the same kind. -/
def rename (here : Nat) (source goal : Raw) (tree : Tree) : Except IoFault Tree :=
  match tree.spot here source false, tree.spot here goal false with
  | .error fault, _ | _, .error fault => .error fault
  | .ok ⟨_, _, none, _⟩, _ => .error .notFound
  | .ok ⟨oldDirectory, oldName, some number, oldSlash⟩, .ok ⟨directory, name, other, slash⟩ =>
    let isDirectory := tree.isDirectory number
    let placed (tree : Tree) : Tree :=
      let tree := (tree.leave oldDirectory oldName).enter directory name number
      if isDirectory then
        tree.setEntry number (.directory directory (tree.members number))
      else tree
    if oldName = [] ∨ name = [] then .error (.other "Device or resource busy")
    else if !isDirectory && (slash || oldSlash) then .error .notADirectory
    else if isDirectory && tree.isWithin number tree.nodes.size directory then .error .invalid
    else
      match other with
      | none => .ok (placed tree)
      | some other =>
        if other = number then .ok tree
        else if isDirectory && !tree.isDirectory other then .error .notADirectory
        else if !isDirectory && tree.isDirectory other then .error .isADirectory
        else if isDirectory && !(tree.members other).isEmpty then .error .notEmpty
        else .ok (placed tree)

/-! ## Without refusal, for a tree that is being set up -/

/-- The tree with a directory at every step of a way from the root, and the number
of the last one. -/
def withDirectories (steps : List Raw) (tree : Tree) : Nat × Tree :=
  steps.foldl
    (fun (number, tree) step =>
      match tree.member? number step with
      | some inner => (inner, tree)
      | none => tree.create number step { entry := .directory number [], mode := 0o755 })
    (root, tree)

/-- The tree with a node at the end of a way from the root. -/
def withNode (steps : List Raw) (node : Node) (tree : Tree) : Tree :=
  let (directory, tree) := tree.withDirectories steps.dropLast
  (tree.create directory (steps.getLast?.getD []) node).2

/-- The steps of a path. -/
def stepsOf (path : Raw) : List Raw := (Raw.split '/' path).filter (· ≠ [])

end Tree

end Rehearsal

end InstallPlan

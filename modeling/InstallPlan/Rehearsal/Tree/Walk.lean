import InstallPlan.Rehearsal.Tree.Basic

/-!
# Rehearsal — Walking through a file tree

A path is followed name by name from a directory. A symbolic link on the way is
replaced by the path that it holds; at the end of the way it depends on the use
whether it is. The last name need not stand for anything yet (`Spot`).
-/

namespace InstallPlan

namespace Rehearsal

/-- Where a path leads: a name in a directory, and what it stands for. A path
that ends in a slash, a dot or two dots leads to a directory without a name. -/
structure Spot where
  directory : Nat
  name : Raw
  node : Option Nat
  /-- Whether a slash follows the name, so that it must be that of a directory. -/
  slash : Bool := false

namespace Tree

/-- The greatest number of symbolic links on a way. -/
def maxLinks : Nat := 40

/-- Whether the steps behind a name are none but slashes. -/
def isEnd (steps : List Raw) : Bool := steps.all (· = [])

/-- Where a text behind a directory begins: at the root if a slash is in front. -/
def startOf (directory : Nat) (path : Raw) : Nat :=
  if path.head? = some '/' then root else directory

/-- Walks on from a directory up to a link, from where somebody else goes on. The last
link is followed if that is asked for, or if a slash stands behind it. -/
def walkUpTo (tree : Tree) (follows : Bool)
    (goOn : Nat → Raw → List Raw → Except IoFault Spot) : Nat → List Raw → Except IoFault Spot
  | directory, [] => .ok ⟨directory, [], some directory, false⟩
  | directory, step :: steps =>
    if !tree.isDirectory directory then .error .notADirectory
    else if step = [] ∨ step = ['.'] then tree.walkUpTo follows goOn directory steps
    else if step = ['.', '.'] then tree.walkUpTo follows goOn (tree.parent directory) steps
    else if maxName < step.length then .error .nameTooLong
    else
      match tree.member? directory step with
      | none =>
        if isEnd steps then .ok ⟨directory, step, none, !steps.isEmpty⟩ else .error .notFound
      | some number =>
        match tree.entry? number with
        | some (.link target) =>
          if steps.isEmpty && !follows then .ok ⟨directory, step, some number, false⟩
          else goOn directory target steps
        | some (.directory _ _) =>
          if isEnd steps then .ok ⟨directory, step, some number, !steps.isEmpty⟩
          else tree.walkUpTo follows goOn number steps
        | some _ =>
          if steps.isEmpty then .ok ⟨directory, step, some number, false⟩
          else .error .notADirectory
        | none => .error .notFound

/-- Walks on from a directory, over at most so many links. -/
def walk (tree : Tree) (follows : Bool) : Nat → Nat → List Raw → Except IoFault Spot
  | 0 => tree.walkUpTo follows fun _ _ _ => .error .tooManyLinks
  | links + 1 =>
    tree.walkUpTo follows fun directory target steps =>
      if target = [] then .error .notFound
      else tree.walk follows links (startOf directory target) (Raw.split '/' target ++ steps)

/-- Where a path leads. -/
def spot (tree : Tree) (here : Nat) (path : Raw) (follows : Bool) : Except IoFault Spot :=
  if path = [] then .error .notFound
  else if maxPath < path.length then .error .nameTooLong
  else tree.walk follows maxLinks (startOf here path) (Raw.split '/' path)

/-- The number of what a path leads to, following a link at its end. -/
def find (tree : Tree) (here : Nat) (path : Raw) : Except IoFault Nat :=
  match tree.spot here path true with
  | .error fault => .error fault
  | .ok ⟨_, _, some number, _⟩ => .ok number
  | .ok _ => .error .notFound

/-- The number of what a path leads to, a link at its end being itself. -/
def findUnfollowed (tree : Tree) (here : Nat) (path : Raw) : Except IoFault Nat :=
  match tree.spot here path false with
  | .error fault => .error fault
  | .ok ⟨_, _, some number, _⟩ => .ok number
  | .ok _ => .error .notFound

/-- The node that a path leads to. -/
def locate (tree : Tree) (here : Nat) (path : Raw) : Except IoFault Node :=
  match tree.find here path with
  | .error fault => .error fault
  | .ok number =>
    match tree.node? number with
    | some node => .ok node
    | none => .error .notFound

/-- Whether a path leads to a directory. -/
def leadsToDirectory (tree : Tree) (here : Nat) (path : Raw) : Bool :=
  match tree.locate here path with
  | .ok node => node.entry.isDirectory
  | .error _ => false

end Tree

end Rehearsal

end InstallPlan

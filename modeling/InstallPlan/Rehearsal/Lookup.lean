import InstallPlan.Rehearsal.Tree.Walk

/-!
# Rehearsal — Looking for programs

What is carried out when a path is: a program that comes with the system, or the
one that the first line of a script names. A name without a slash is looked for
in the directories of a search path. What is carried out is given by its name,
and the words that it is called with, of which the first is how it was called.
-/

namespace InstallPlan

namespace Rehearsal

namespace Lookup

/-- A program that comes with the system, and the words that it is called with. -/
abbrev Call := String × List Raw

/-- The program and the option that the first line of a script names. -/
def reader? (content : Raw) : Option (Raw × Option Raw) :=
  match content with
  | '#' :: '!' :: rest =>
    let isGap (c : Char) : Bool := c = ' ' || c = '\t'
    let line := Raw.trim isGap ((rest.takeWhile (· ≠ '\n')).take 253)
    let name := line.takeWhile fun c => !isGap c
    let option := (line.drop name.length).dropWhile isGap
    if name = [] then none else some (name, if option = [] then none else some option)
  | _ => none

/-- What is carried out for a path, if scripts name each other at most so often. -/
def callWithin (tree : Tree) (here : Nat) : Nat → Raw → List Raw → Except IoFault Call
  | 0, _, _ => .error .tooManyLinks
  | depth + 1, path, words =>
    match tree.locate here path with
    | .error fault => .error fault
    | .ok node =>
      match node.entry with
      | .program name => if node.isExecutable then .ok (name, words) else .error .permissionDenied
      | .file content =>
        if !node.isExecutable then .error .permissionDenied
        else
          match reader? content with
          | none => .error .unknownFormat
          | some (name, option) =>
            callWithin tree here depth name (name :: option.toList ++ path :: words.drop 1)
      | _ => .error .permissionDenied

/-- What is carried out for a path. -/
def call (tree : Tree) (here : Nat) (path : Raw) (words : List Raw) : Except IoFault Call :=
  callWithin tree here 6 path words

/-- The call of a shell for a file that is no program in a known form. -/
def byShell (path : Raw) (words : List Raw) : Call :=
  ("sh", "/bin/sh".toList :: path :: words.drop 1)

/-- What is carried out for a path; a file in no known form is a script. -/
def callOrScript (tree : Tree) (here : Nat) (path : Raw) (words : List Raw) :
    Except IoFault Call :=
  match call tree here path words with
  | .error fault => if fault = .unknownFormat then .ok (byShell path words) else .error fault
  | .ok found => .ok found

/-- A name in a directory of a search path. -/
def inDirectory (directory name : Raw) : Raw :=
  if directory = [] then name else directory ++ '/' :: name

/-- The directories of a search path. -/
def directories (path : Raw) : List Raw := Raw.split ':' path

/-- What is carried out for a name that is tried in one directory after the other. A
fault other than that nothing is there ends the search, unless it is about what is
allowed, which is told if nothing is found. -/
def firstOf (call : Raw → Except IoFault Call) (denied : Bool) (last : IoFault) :
    List Raw → Except IoFault Call
  | [] => .error (if denied then .permissionDenied else last)
  | path :: more =>
    match call path with
    | .ok found => .ok found
    | .error fault =>
      if fault = .permissionDenied then firstOf call true last more
      else if fault = .notFound ∨ fault = .notADirectory then firstOf call denied fault more
      else .error fault

/-- What is carried out for a name, as a program finds another one. -/
def search (call : Raw → List Raw → Except IoFault Call) (path name : Raw) (words : List Raw) :
    Except IoFault Call :=
  if name = [] then .error .notFound
  else if name.contains '/' then call name words
  else
    firstOf (fun file => call file words) false .notFound
      ((directories path).map fun directory => inDirectory directory name)

/-- Whether a path leads to a file that may be carried out. -/
def isProgram (tree : Tree) (here : Nat) (path : Raw) : Bool :=
  match tree.locate here path with
  | .ok node => node.entry.isRegular && node.isExecutable
  | .error _ => false

/-- The paths at which a name may be found, from the first on at which there is a
program, or why there is none. -/
def candidates (tree : Tree) (here : Nat) (path name : Raw) : Except IoFault (List Raw) :=
  let all := (directories path).map fun directory => inDirectory directory name
  match all.dropWhile fun file => !isProgram tree here file with
  | [] =>
    let fault := all.foldl
      (fun fault file =>
        match tree.locate here file with
        | .ok _ => .permissionDenied
        | .error e => if e = .notFound ∨ e = .notADirectory then fault else e)
      IoFault.notFound
    .error fault
  | found => .ok found

/-- What is carried out for one of some paths: the first that can be, or why the
last one that is there cannot. -/
def firstCandidate (tree : Tree) (here : Nat) (words : List Raw) :
    IoFault → List Raw → Except IoFault Call
  | fault, [] => .error fault
  | fault, path :: more =>
    match callOrScript tree here path words with
    | .ok found => .ok found
    | .error e =>
      firstCandidate tree here words (if e = .notFound ∨ e = .notADirectory then fault else e) more

end Lookup

end Rehearsal

end InstallPlan

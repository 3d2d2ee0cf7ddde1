import InstallPlan.Rehearsal.Regex.Basic

/-!
# Rehearsal — Scripts of the stream editor

A script is a row of commands, each of which is meant for some lines of the input
(`Selection`). A block is opened by a command that knows where the block ends, and
a jump knows the label that it goes to.
-/

namespace InstallPlan

namespace Rehearsal

namespace Editor

/-- An expression with the ways to match it. -/
structure Matcher where
  regex : Regex
  folds : Bool := false
  byLine : Bool := false

/-- Which lines are meant. Without an expression, the last one that was used is. -/
inductive Address where
  | line (number : Nat)
  | every (first step : Nat)
  | last
  | matching (matcher : Option Matcher)

/-- Where a range of lines ends. -/
inductive RangeEnd where
  | here (address : Address)
  /-- So many lines later. -/
  | later (count : Nat)
  /-- At the next line whose number is a multiple. -/
  | multiple (factor : Nat)

/-- The lines that a command is meant for. -/
structure Selection where
  first : Option Address := none
  second : Option RangeEnd := none
  inverted : Bool := false

/-- How letters of a replacement are changed. -/
inductive Casing where
  | upper
  | lower
  | nextUpper
  | nextLower
  | asIs

/-- A part of a replacement. -/
inductive Part where
  | text (text : Raw)
  | group (number : Nat)
  | casing (casing : Casing)

/-- The replacement of what an expression matches. -/
structure Substitution where
  matcher : Option Matcher
  parts : List Part
  isGlobal : Bool := false
  /-- The number of the match that is replaced first. -/
  number : Nat := 1
  prints : Bool := false
  evaluates : Bool := false
  writesTo : Option Raw := none

/-- When a jump is made. -/
inductive JumpWhen where
  | always
  | replaced
  | notReplaced

/-- What a command does. -/
inductive Action where
  | nothing
  /-- Goes on behind a block unless the block is meant for the line. -/
  | block (behind : Nat)
  /-- Goes on behind a label, or at the end. -/
  | jump (condition : JumpWhen) (label : Raw)
  | append (text : Raw)
  | insert (text : Raw)
  | change (text : Raw)
  | delete
  | deleteLine
  | run (command : Raw)
  | sayName
  | sayNumber
  | takeHeld (adds : Bool)
  | hold (adds : Bool)
  | exchange
  | list (width : Option Nat)
  | next
  | nextAdded
  | print
  | printLine
  | quit (quietly : Bool) (status : Nat)
  | readFile (path : Raw)
  | readLine (path : Raw)
  | substitute (substitution : Substitution)
  | translate (pairs : List (Char × Char))
  | write (path : Raw)
  | writeLine (path : Raw)
  | clear

/-- A command. -/
structure Command where
  selection : Selection := {}
  action : Action

/-- A script. -/
structure Script where
  commands : Array Command := #[]
  labels : List (Raw × Nat) := []
  /-- Whether lines are printed only if that is asked for. -/
  isQuiet : Bool := false

namespace Script

/-- The files that a script writes. -/
def outputs (script : Script) : List Raw :=
  script.commands.toList.filterMap fun command =>
    match command.action with
    | .write path | .writeLine path => some path
    | .substitute s => s.writesTo
    | _ => none

/-- A label that is jumped to and is nowhere. -/
def missingLabel? (script : Script) : Option Raw :=
  script.commands.toList.findSome? fun command =>
    match command.action with
    | .jump _ label =>
      if label = [] ∨ script.labels.any (·.1 = label) then none else some label
    | _ => none

end Script

end Editor

end Rehearsal

end InstallPlan

import InstallPlan.Fault

/-!
# Mode

What is done with a plan: run it, show it, or write it as a script.
-/

namespace InstallPlan

/-- What is done with a plan. -/
inductive Mode where
  /-- Run every command. -/
  | exec
  /-- Log the commands without running them. -/
  | dryrun
  /-- Write a script. -/
  | shell
  deriving DecidableEq, Repr

namespace Mode

/-- All modes. -/
def all : List Mode := [.exec, .dryrun, .shell]

/-- The mode when none is chosen. -/
def standard : Mode := .shell

/-- The name of a mode. -/
def name : Mode → String
  | .exec => "exec"
  | .dryrun => "dryrun"
  | .shell => "shell"

/-- The mode of a name. -/
def ofName? (name : String) : Option Mode := all.find? fun mode => mode.name = name

/-- The mode whose name octets are. -/
def ofOctets? (octets : Octets) : Option Mode :=
  all.find? fun mode => Utf8.encode mode.name = octets

/-- The mode of a name; an unknown name is a fault. -/
def ofName (name : String) : Except Fault Mode :=
  match ofName? name with
  | some mode => .ok mode
  | none => .error (.unknownMode name)

end Mode

end InstallPlan

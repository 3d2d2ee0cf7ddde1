import InstallPlan.Rehearsal.Shell.Parameter

/-!
# Rehearsal — What a script is carried out by

Words hold scripts, scripts hold commands, and commands hold words. Each of
these knows the others by an `Interpreter`: how a word is expanded, a command
carried out and a program started that is nested one level deeper.
-/

namespace InstallPlan

namespace Rehearsal

/-- How a word is expanded. -/
structure Manner where
  /-- Whether it stands between double quotes. -/
  quoted : Bool := false
  /-- Whether plain text is divided as values are. -/
  divides : Bool := false
  /-- Whether a tilde in front stands for a directory. -/
  tilde : Bool := false
  /-- Whether a tilde behind a colon does, too. -/
  colons : Bool := false

/-- What is carried out one level deeper. -/
structure Interpreter where
  expand : Manner → Word → Act (List Glyph)
  /-- Carries out a command. If its status is looked at, its failure does not end
  the shell. -/
  command : Bool → Command → Act Unit
  /-- Carries out a program that comes with the system. -/
  start : String → List Raw → Process → Halt × Process

end Rehearsal

end InstallPlan

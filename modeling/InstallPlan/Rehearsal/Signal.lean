import InstallPlan.Rehearsal.Errand.Basic

/-!
# Rehearsal — Signals

The signals by their numbers and their names. The name for number zero stands for
the end of a program.
-/

namespace InstallPlan

namespace Rehearsal

namespace Signal

/-- The signals with their names, in the order of their numbers; the first stands
for the end. -/
def names : List String := "EXIT" :: ExitStatus.signalNames

/-- The number of the signal that asks a program to end. -/
def term : Nat := 15

/-- The number of the signal that no program can be deaf to. -/
def kill : Nat := 9

/-- The number of a signal that is given by its name or its number. -/
def ofText? (mayBeginWithSig : Bool) (text : Raw) : Option Nat :=
  match decimal? text with
  | some n => if n < 65 then some n else none
  | none =>
    let large := text.map Char.toUpper
    let name := if mayBeginWithSig ∧ (raw "SIG").isPrefixOf large then large.drop 3 else large
    names.findIdx? fun s => s.toList = name

/-- What the signals do to a program, in the order of their numbers from one on. -/
def descriptions : List String :=
  ["Hangup", "Interrupt", "Quit", "Illegal instruction", "Trace/breakpoint trap", "Aborted",
    "Bus error", "Floating point exception", "Killed", "User defined signal 1",
    "Segmentation fault", "User defined signal 2", "Broken pipe", "Alarm clock", "Terminated",
    "Stack fault"]

/-- What is said of a program that a signal ends. Nothing is said of an interrupt, or of
a pipe that nobody reads. -/
def description? (number : Nat) : Option String :=
  if number = 0 ∨ number = 2 ∨ number = 13 then none else descriptions[number - 1]?

/-- The name of a signal. -/
def name (number : Nat) : String := (names[number]?).getD (toString number)

end Signal

end Rehearsal

end InstallPlan

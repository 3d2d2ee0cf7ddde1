import InstallPlan.Rehearsal.Condition
import InstallPlan.Rehearsal.Errand.Options
import InstallPlan.Rehearsal.Shell.Expansion

/-!
# Rehearsal — Commands of the shell itself

What the commands have in common that a shell carries out without the help of a
program: their options, their numbers, and how they fail.
-/

namespace InstallPlan

namespace Rehearsal

namespace Builtin

/-- Refuses to go on with a command. -/
def deny {α : Type} (message : Raw) : Act α := do
  if (← get).isRich then
    Act.complain message
    throw (.failed 1)
  else Act.failWith 2 message

/-- Refuses a use that makes no sense. -/
def misuse {α : Type} (message : Raw) : Act α := do
  if (← get).isRich then
    Act.complain message
    throw (.failed 2)
  else Act.failWith 2 message

/-- Reads the letters of options that stand together, and whether the next argument
was used up as the value of the last one. -/
def letters (known : String) (next : Option Raw) : Raw → Act (List (Char × Raw) × Bool)
  | [] => return ([], false)
  | c :: rest => do
    match Options.need? c known.toList with
    | none =>
      if (← get).isRich then misuse (['-', c] ++ raw ": invalid option")
      else misuse (raw "Illegal option -" ++ [c])
    | some .value =>
      if rest ≠ [] then return ([(c, rest)], false)
      else
        match next with
        | some value => return ([(c, value)], true)
        | none =>
          if (← get).isRich then misuse (['-', c] ++ raw ": option requires an argument")
          else misuse (raw "No arg for -" ++ [c] ++ raw " option")
    | some _ =>
      let (more, used) ← letters known next rest
      return ((c, []) :: more, used)

/-- Reads the options in front of the operands. -/
def options (known : String) : List Raw → Act (List (Char × Raw) × List Raw)
  | [] => return ([], [])
  | argument :: rest =>
    match argument with
    | ['-', '-'] => return ([], rest)
    | '-' :: c :: more => do
      let (found, used) ← letters known rest.head? (c :: more)
      if used then
        match rest with
        | _ :: rest =>
          let (others, operands) ← options known rest
          return (found ++ others, operands)
        | [] => return (found, [])
      else
        let (others, operands) ← options known rest
        return (found ++ others, operands)
    | _ => return ([], argument :: rest)

/-- Whether an option was given. -/
def has (found : List (Char × Raw)) (letter : Char) : Bool := found.any (·.1 = letter)

/-- A number that is not below zero, and not too large for the purpose. -/
def number (text : Raw) : Act Nat := do
  let refuse : Act Nat := do
    if (← get).isRich then misuse (text ++ raw ": numeric argument required")
    else misuse (raw "Illegal number: " ++ text)
  match Condition.number? text with
  | some n => if 0 ≤ n ∧ n < (Nat.pow 2 31 : Nat) then return n.toNat else refuse
  | none => refuse

/-- The number that a command is given, if any. -/
def numberOr (standard : Nat) : List Raw → Act Nat
  | [] => return standard
  | text :: _ => number text

/-- A name and a value, where there is an equals sign. -/
def nameAndValue (argument : Raw) : Raw × Option Raw :=
  match argument.dropWhile (· ≠ '=') with
  | [] => (argument, none)
  | _ :: value => (argument.takeWhile (· ≠ '='), some value)

/-- Refuses a text that is no name. -/
def checkName (name written : Raw) : Act Unit := do
  if !isName name then
    if (← get).isRich then deny (raw "\x60" ++ written ++ raw "': not a valid identifier")
    else deny (name ++ raw ": bad variable name")

end Builtin

end Rehearsal

end InstallPlan

import InstallPlan.Rehearsal.Shell.Builtin.Basic

/-!
# Rehearsal — Commands of the shell that print

Texts, formats, and conditions, which print nothing but complaints.
-/

namespace InstallPlan

namespace Rehearsal

namespace Builtin

/-- The escapes that a plain shell knows in arguments. -/
def escapes : Escapes := { letters := Escapes.common, zero := true, ending := true }

/-- What the format command of a plain shell knows. -/
def plainFormat : Format.Convention where
  escapes := { letters := Escapes.common }
  inner := escapes
  precision := 53
  directives := "aAbcdeEfFgGiosuxX"
  wording
    | .noNumber argument => argument ++ raw ": expected numeric value"
    | .leftover argument => argument ++ raw ": not completely converted"
    | .tooLarge argument => argument ++ raw ": Numerical result out of range"
    | .badDirective text => text ++ raw ": invalid directive"
    | .missingDirective _ => raw "missing format character"
  badStatus := 2

/-- The escapes in a format of the richer dialect. -/
def richEscapes : Escapes :=
  { letters := [('"', '"'), ('\x27', '\x27'), ('?', '?')] ++ Escapes.common, hex := true,
    unicode := true }

/-- What the format command of the richer dialect knows. -/
def richFormat : Format.Convention where
  escapes := richEscapes
  inner := { escapes with hex := true, unicode := true }
  precision := 64
  directives := "aAbcdeEfFgGioqsuxX"
  sizes := "hlLjzt"
  emptyIsZero := true
  wording
    | .noNumber argument | .leftover argument => argument ++ raw ": invalid number"
    | .tooLarge argument => raw "warning: " ++ argument ++ raw ": Numerical result out of range"
    | .badDirective text => raw "\x60" ++ text.drop 1 ++ raw "': invalid format character"
    | .missingDirective text => raw "\x60" ++ text ++ raw "': missing format character"

/-- Prints its arguments. -/
def echo (arguments : List Raw) : Act Unit := do
  let shell ← get
  if shell.isRich then
    let isOption (a : Raw) : Bool :=
      1 < a.length && a.head? = some '-' && (a.drop 1).all "neE".toList.contains
    let options := (arguments.takeWhile isOption).flatten
    let text := Raw.joined [' '] (arguments.dropWhile isOption)
    let replaces :=
      (options.reverse.find? fun c => c = 'e' ∨ c = 'E').getD
        (if shell.has "xpg_echo" then 'e' else 'E') = 'e'
    let (text, ends) :=
      if replaces then { escapes with hex := true, unicode := true, octal := false }.replace 0 text
      else (text, false)
    Act.say (if ends || options.contains 'n' then text else text ++ ['\n'])
  else
    let (bare, arguments) :=
      match arguments with
      | ['-', 'n'] :: rest => (true, rest)
      | arguments => (false, arguments)
    let (text, ends) := escapes.replace 0 (Raw.joined [' '] arguments)
    Act.say (if bare || ends then text else text ++ ['\n'])
  Act.setStatus 0

/-- Prints a format with its arguments. -/
def printf (arguments : List Raw) : Act Unit := do
  let shell ← get
  let (found, arguments) ← options (if shell.isRich then "v:" else "") arguments
  match arguments with
  | [] =>
    if shell.isRich then misuse (raw "usage: printf [-v var] format [arguments]")
    else misuse (raw "usage: printf format [arg ...]")
  | format :: more =>
    let (text, complaints, status, _) :=
      Format.print (if shell.isRich then richFormat else plainFormat) format more
    complaints.forM Act.complain
    match found.find? (·.1 = 'v') with
    | some (_, name) => Act.assignIndexed name text
    | none => Act.say text
    Act.setStatus status

/-- Tests a condition. -/
def testOf (words : List Raw) : Act Unit := do
  let shell ← get
  let answer :=
    if shell.isRich then
      Condition.Counted.whole
        { process := shell.process, words := words.toArray,
          isSet := some fun name => (shell.indexed? name).isSome }
    else Condition.plain shell.process words
  match answer with
  | .ok holds => Act.setStatus (if holds then 0 else 1)
  | .error message => misuse message

/-- Tests a condition that a bracket must close. -/
def bracket (arguments : List Raw) : Act Unit := do
  if arguments.getLast? = some [']'] then testOf arguments.dropLast
  else if (← get).isRich then misuse (raw "missing \x60]'")
  else misuse (raw "missing ]")

end Builtin

end Rehearsal

end InstallPlan

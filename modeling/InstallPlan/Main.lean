import InstallPlan.Program
import InstallPlan.Rehearsal.World

/-!
# Main

The program. What it needs from outside is read beforehand: the variables of the
environment, the kind of its output streams, and the one source that the options
name. Commands are carried out in a machine in memory, never on the real one.
-/

namespace InstallPlan

/-- The fault that an error of the operating system stands for. -/
def IoFault.ofError : IO.Error → IoFault
  | .noFileOrDirectory _ _ _ => .notFound
  | .permissionDenied _ _ _ => .permissionDenied
  | .inappropriateType _ _ _ => .isADirectory
  | error => .other (toString error)

/-- The octets of a stream. -/
partial def readAll (stream : IO.FS.Stream) (sofar : ByteArray) : IO ByteArray := do
  let chunk ← stream.read 65536
  if chunk.isEmpty then return sofar else readAll stream (sofar ++ chunk)

/-- Reads a source. -/
def readSource (source : Source) : IO (Except IoFault Octets) := do
  try
    match source with
    | .standardInput => return .ok (← readAll (← IO.getStdin) .empty).toList
    | .file path =>
      if path.octets.contains 0 then return .error .nulInPath
      else return .ok (← IO.FS.readBinFile path.shown).toList
  catch error => return .error (.ofError error)

/-- The variables of the environment that the program looks at. -/
def variableNames : List String :=
  ["ARCHSTRAP_INSTALL_ROOT", "ARCHSTRAP_MODE", "CLICOLOR", "CLICOLOR_FORCE", "NO_COLOR"]

/-- Runs the program on an argument list. -/
def runMain (arguments : List String) : IO UInt32 := do
  let output ← IO.getStdout
  let errors ← IO.getStderr
  let values ← variableNames.mapM fun name => do return (name, ← IO.getEnv name)
  let look (name : String) : Option String := (values.lookup name).join
  let environment := Environment.ofVariables look (← output.isTty) (← errors.isTty)
  let octets ←
    match Options.ofArguments arguments environment.surroundings with
    | .ok options =>
      if options.doc || options.completions.isSome then pure (.ok [])
      else readSource (Source.ofPath? options.specification)
    | .error _ => pure (.ok [])
  let machine := Rehearsal.World.machineGiven octets
  let ending := Program.run arguments environment machine Rehearsal.World.standard
  output.write ⟨ending.stdout.toArray⟩
  output.flush
  errors.write ⟨ending.stderr.toArray⟩
  return UInt32.ofNat ending.code

end InstallPlan

/-- The entry of the program. -/
def main (arguments : List String) : IO UInt32 := InstallPlan.runMain arguments

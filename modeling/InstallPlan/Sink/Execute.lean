import InstallPlan.Sink.Assignment
import InstallPlan.Sink.Basic

/-!
# Sink — Execute

Runs every command through a shell and stops at the first that fails. Where
the commands run is up to a `Host`.

A command that assigns a variable is run for its value: the shell prints the
variable after the assignment, and every later command finds it in its
environment. A value assigned again moves to the end of the variables.
-/

namespace InstallPlan

/-- A variable and its value. -/
abbrev Variable := String × String

/-- A request to run a script with a shell, with variables added to the
environment. -/
structure Request where
  shell : String
  script : String
  environment : List Variable
  deriving DecidableEq, Repr

/-- The answer to a request. -/
inductive Reply where
  /-- The shell could not be started. -/
  | refused (reason : IoFault)
  /-- The shell ended with a status, having written to its two streams. -/
  | ended (status : ExitStatus) (stdout stderr : Octets)
  deriving DecidableEq, Repr

/-- Where commands run, with a state of type `η`. -/
abbrev Host (η : Type) := Request → η → Reply × η

/-- The state of an execution: the variables captured so far, and the host's. -/
structure Session (η : Type) where
  captures : List Variable := []
  host : η

namespace Execute

/-- The shell that runs the commands unless another is named. -/
def defaultShell : String := "sh"

/-- The script that runs an assignment and prints the variable's value. -/
def captureScript (name command : String) : String :=
  "set -e\n" ++ command ++ "\nprintf '%s' \"$" ++ name ++ "\""

/-- The variables after one is assigned. -/
def assign (name value : String) (captures : List Variable) : List Variable :=
  captures.filter (fun v => v.1 ≠ name) ++ [(name, value)]

variable {η : Type}

/-- Runs a command for its effect. -/
def run (host : Host η) (shell command : String) (session : Session η) : Reaction (Session η) :=
  let (reply, after) := host ⟨shell, command, session.captures⟩ session.host
  let session := { session with host := after }
  match reply with
  | .refused reason => { state := session, fault := some (.spawnFailed command reason) }
  | .ended status stdout stderr =>
    { state := session
      output := [.stdout stdout, .stderr stderr]
      fault := if status = .exited 0 then none else some (.commandFailed command status) }

/-- Runs an assignment for its value. -/
def capture (host : Host η) (shell name command : String) (session : Session η) :
    Reaction (Session η) :=
  let (reply, after) :=
    host ⟨shell, captureScript name command, session.captures⟩ session.host
  let session := { session with host := after }
  match reply with
  | .refused reason => { state := session, fault := some (.spawnFailed command reason) }
  | .ended status stdout stderr =>
    if status = .exited 0 then
      let value := Utf8.decodeLossy stdout
      { state := { session with captures := assign name value session.captures }
        output := [.stderr stderr,
          .debug "provision::sink::execute" ("Captured " ++ name ++ "=" ++ value)] }
    else
      { state := session
        output := [.stderr stderr]
        fault := some (.commandFailed command status) }

end Execute

/-- The sink that runs commands with a shell. -/
def Sink.execute {η : Type} (host : Host η) (shell : String) : Sink (Session η) where
  heading name session :=
    { state := session
      output := [(Step.heading name).announcement "provision::sink::execute"] }
  command text session :=
    let reaction :=
      match Assignment.target? text with
      | some name => Execute.capture host shell name text session
      | none => Execute.run host shell text session
    { reaction with
      output := (Step.command text).announcement "provision::sink::execute" :: reaction.output }

end InstallPlan

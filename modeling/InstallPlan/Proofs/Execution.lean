import InstallPlan.Sink.Execute

/-!
# Execution

What a command comes to when it is run. One shell is asked, with the variables
as they are (`Session.request`); the variables behind it, what is put out and
whether it fails depend on the reply alone. `Sink.react_execute_command` says so
once, for commands that capture a variable and for the others, and nothing else
is needed to reason about the sink.
-/

namespace InstallPlan

/-- Whether a shell was started and ended with the code zero. -/
def Reply.succeeded : Reply → Bool
  | .refused _ => false
  | .ended status _ _ => status = .exited 0

namespace Execute

/-- The script that a shell is given for a command. -/
def scriptOf (command : String) : String :=
  match Assignment.target? command with
  | none => command
  | some name => captureScript name command

/-- The variable that a command captures, given the reply of its shell. -/
def captured? (command : String) : Reply → Option Variable
  | .refused _ => none
  | .ended status stdout _ =>
    if status = .exited 0 then
      (Assignment.target? command).map fun name => (name, Utf8.decodeLossy stdout)
    else none

/-- The variables behind a command. -/
def capturesAfter (command : String) (reply : Reply) (captures : List Variable) :
    List Variable :=
  match captured? command reply with
  | some (name, value) => assign name value captures
  | none => captures

/-- What a command puts out, without its announcement. -/
def outputAfter (command : String) : Reply → List Output
  | .refused _ => []
  | .ended status stdout stderr =>
    match Assignment.target? command with
    | none => [.stdout stdout, .stderr stderr]
    | some name =>
      if status = .exited 0 then
        [.stderr stderr, .debug "provision::sink::execute"
          ("Captured " ++ name ++ "=" ++ Utf8.decodeLossy stdout)]
      else [.stderr stderr]

/-- The fault of a command. -/
def faultAfter (command : String) : Reply → Option Fault
  | .refused reason => some (.spawnFailed command reason)
  | .ended status _ _ => if status = .exited 0 then none else some (.commandFailed command status)

theorem faultAfter_eq_none_iff {command : String} {reply : Reply} :
    faultAfter command reply = none ↔ reply.succeeded := by
  cases reply with
  | refused reason => simp [faultAfter, Reply.succeeded]
  | ended status stdout stderr => simp [faultAfter, Reply.succeeded]

theorem captured?_eq_none {command : String} {reply : Reply}
    (h : reply.succeeded = false ∨ Assignment.target? command = none) :
    captured? command reply = none := by
  cases reply with
  | refused reason => rfl
  | ended status stdout stderr =>
    by_cases hs : status = .exited 0
    -- the shell succeeded, so it must be the command that assigns nothing
    · have htarget : Assignment.target? command = none := by
        simpa [Reply.succeeded, hs] using h
      simp [captured?, htarget]
    · simp [captured?, hs]

theorem capturesAfter_eq_self {command : String} {reply : Reply}
    (h : reply.succeeded = false ∨ Assignment.target? command = none)
    (captures : List Variable) : capturesAfter command reply captures = captures := by
  rw [capturesAfter, captured?_eq_none h]

end Execute

section

variable {η : Type}

/-- The request that a command makes in a session. -/
def Session.request (session : Session η) (shell command : String) : Request :=
  ⟨shell, Execute.scriptOf command, session.captures⟩

/-- A command asks for one shell; the rest follows from its reply. -/
theorem Sink.react_execute_command (host : Host η) (shell command : String)
    (session : Session η) :
    let answer := host (session.request shell command) session.host
    (Sink.execute host shell).react (.step (.command command)) session =
      { state :=
          { captures := Execute.capturesAfter command answer.1 session.captures
            host := answer.2 }
        output := (Step.command command).announcement "provision::sink::execute"
          :: Execute.outputAfter command answer.1
        fault := Execute.faultAfter command answer.1 } := by
  intro answer
  rcases hanswer : answer with ⟨reply, world⟩
  cases ht : Assignment.target? command with
  | none =>
    have hhost : host ⟨shell, command, session.captures⟩ session.host = (reply, world) := by
      simpa [answer, Session.request, Execute.scriptOf, ht] using hanswer
    cases reply with
    | refused reason =>
      simp [react, execute, ht, Execute.run, hhost, Execute.capturesAfter, Execute.captured?,
        Execute.outputAfter, Execute.faultAfter]
    | ended status stdout stderr =>
      simp [react, execute, ht, Execute.run, hhost, Execute.capturesAfter, Execute.captured?,
        Execute.outputAfter, Execute.faultAfter]
  | some name =>
    have hhost : host ⟨shell, Execute.captureScript name command, session.captures⟩ session.host
        = (reply, world) := by
      simpa [answer, Session.request, Execute.scriptOf, ht] using hanswer
    cases reply with
    | refused reason =>
      simp [react, execute, ht, Execute.capture, hhost, Execute.capturesAfter,
        Execute.captured?, Execute.outputAfter, Execute.faultAfter]
    | ended status stdout stderr =>
      by_cases hs : status = .exited 0 <;>
        simp [react, execute, ht, Execute.capture, hhost, Execute.capturesAfter,
          Execute.captured?, Execute.outputAfter, Execute.faultAfter, hs]

end

end InstallPlan

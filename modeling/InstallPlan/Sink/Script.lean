import InstallPlan.Sink.Writer

/-!
# Sink — Script

Writes a plan as a script that runs on its own: two lines at the start, every
heading as a comment after an empty line, every command as it is. The text of an
event is written in pieces (`Script.pieces`); a piece that fails ends the event.
-/

namespace InstallPlan

namespace Script

/-- The first line of a script. -/
def shebang : String := "#!/usr/bin/bash"

/-- The second line, which makes a script stop at the first failure. -/
def strictMode : String := "set -xeuo pipefail"

/-- The text of a step. -/
def renderStep : Step → String
  | .heading name => "\n# " ++ name ++ "\n"
  | .command text => text ++ "\n"

/-- The text of an event. -/
def render : Event → String
  | .start => shebang ++ "\n" ++ strictMode ++ "\n"
  | .step s => renderStep s
  | .finish => ""

/-- The texts that a step is written in. -/
def stepPieces : Step → List String
  | .heading name => ["\n", "# ", name, "\n"]
  | .command text => [text, "\n"]

/-- The texts that an event is written in. -/
def pieces : Event → List String
  | .start => [shebang, "\n", strictMode, "\n"]
  | .step s => stepPieces s
  | .finish => []

@[simp] theorem join_pieces (event : Event) : String.join (pieces event) = render event := by
  have hheading (name : String) : "\n" ++ ("# " ++ name) = "\n# " ++ name := by
    rw [← String.append_assoc]
    rfl
  rcases event with _ | ⟨name | text⟩ | _ <;>
    simp [pieces, stepPieces, render, renderStep, String.append_assoc, ← hheading]

variable {ω : Type}

/-- Announces a step and writes it. -/
def writeStep (writer : Writer ω) (s : Step) (state : ω) : Reaction ω :=
  let reaction := writer.writeTexts (stepPieces s) state
  { reaction with output := s.announcement "provision::sink::emit" :: reaction.output }

end Script

/-- The sink that writes a script. -/
def Sink.script {ω : Type} (writer : Writer ω) : Sink ω where
  start state := writer.writeTexts (Script.pieces .start) state
  heading name state := Script.writeStep writer (.heading name) state
  command text state := Script.writeStep writer (.command text) state
  finish state := writer.flush state

end InstallPlan

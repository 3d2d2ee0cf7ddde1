import InstallPlan.Rehearsal.Shell.Expansion

/-!
# Rehearsal — Redirecting channels

Leads the channels of a command elsewhere: to files, to here-documents, or to
where other channels lead. All words are expanded before the first channel is
changed.
-/

namespace InstallPlan

namespace Rehearsal

namespace Redirecting

/-- What is wrong with a path that cannot be opened. -/
def faultText (creates : Bool) (fault : IoFault) : Raw :=
  if fault = .notFound ∨ fault = .notADirectory then
    if creates then raw "Directory nonexistent" else raw "No such file"
  else raw fault.reason

/-- Refuses a path that cannot be opened. -/
def refuse {α : Type} (path : Raw) (creates : Bool) (fault : IoFault) : Act α := do
  if (← get).isRich then
    let reason := if fault = .alreadyThere then raw "cannot overwrite existing file"
      else raw fault.reason
    Act.complain (path ++ raw ": " ++ reason)
    throw (.failed 1)
  else
    Act.complain
      (raw (if creates then "cannot create " else "cannot open ") ++ path ++ raw ": "
        ++ faultText creates fault)
    throw (.failed 2)

/-- Whether a path leads to a queue. -/
def isQueue (shell : Shell) (path : Raw) : Bool :=
  match shell.tree.locate shell.here path with
  | .ok node => node.entry.isQueue
  | .error _ => false

/-- Opens a path on a channel. -/
def openOn (channel : Nat) (path : Raw) (access : Access) : Act Unit := do
  if access.reads && isQueue (← get) path then Act.runJobs
  match (← get).process.openPath path access with
  | .error fault => refuse path access.creates fault
  | .ok (stream, process) => Act.setProcess (process.lead channel (some stream))

/-- Opens a path on a channel for output that may not overwrite a file. -/
def openNew (channel : Nat) (path : Raw) : Act Unit := do
  let shell ← get
  match shell.process.status? path with
  | .error _ => openOn channel path { writes := true, creates := true, exclusive := true }
  | .ok (_, node) =>
    if node.entry.isRegular then refuse path true .alreadyThere
    else openOn channel path { writes := true }

/-- Leads a channel to a text. -/
def leadToText (channel : Nat) (text : Raw) : Act Unit := do
  let (stream, process) := (← get).process.adding { origin := .pipe text, writes := false }
  Act.setProcess (process.lead channel (some stream))

/-- Leads a channel to where another one leads, or closes it. -/
def copy (channel : Nat) (text : Raw) : Act Unit := do
  let shell ← get
  if text = ['-'] then Act.setProcess (shell.process.lead channel none)
  else
    let (digits, moves) :=
      if shell.isRich ∧ 1 < text.length ∧ text.getLast? = some '-' then (text.dropLast, true)
      else (text, false)
    match decimal? digits with
    | none =>
      Act.complain (text ++ raw ": ambiguous redirect")
      throw (.failed 1)
    | some source =>
      if source = channel then pure ()
      else
        match shell.process.stream? source with
        | none =>
          Act.complain (Raw.ofNat source ++ raw ": Bad file descriptor")
          throw (.failed (if shell.isRich then 1 else 2))
        | some stream =>
          let process := shell.process.lead channel (some stream)
          Act.setProcess (if moves then process.lead source none else process)

/-- A redirection whose word is expanded. -/
structure Ready where
  channel : Option Nat
  direction : Direction
  text : Raw

/-- Expands the word of a redirection. -/
def prepare (interpreter : Interpreter) (redirection : Redirection) : Act Ready := do
  let ⟨channel, direction, target⟩ := redirection
  match direction with
  | .document _ => return ⟨channel, direction, []⟩
  | .text =>
    return ⟨channel, direction, (← Expansion.text interpreter target) ++ ['\n']⟩
  | .copy =>
    let text := (← Expansion.words interpreter [target]).headD []
    let isChannel := match text with
      | [c] => c = '-' || c.isDigit
      | _ => false
    if !isChannel && !(← get).isRich then
      Act.failWith 2 (raw "Syntax error: Bad fd number")
    return ⟨channel, direction, text⟩
  | _ =>
    if (← get).isRich then
      match ← Expansion.word interpreter target with
      | [text] => return ⟨channel, direction, text⟩
      | _ =>
        Act.complain ((Script.plainText? target).getD [] ++ raw ": ambiguous redirect")
        throw (.failed 1)
    else return ⟨channel, direction, ← Expansion.text interpreter target⟩

/-- Carries out a redirection. -/
def apply (interpreter : Interpreter) (ready : Ready) : Act Unit := do
  let channel := ready.channel.getD 1
  match ready.direction with
  | .input => openOn channel ready.text .reading
  | .output =>
    if (← get).has "noclobber" then openNew channel ready.text
    else openOn channel ready.text .writing
  | .overwriting => openOn channel ready.text .writing
  | .extension => openOn channel ready.text .appending
  | .both => openOn channel ready.text .updating
  | .copy => copy channel ready.text
  | .outputs appends =>
    openOn 1 ready.text (if appends then .appending else .writing)
    copy 2 ['1']
  | .text => leadToText channel ready.text
  | .document number =>
    match (← get).documents.find? (·.1 = number) with
    | some (_, word) =>
      let glyphs ← interpreter.expand { quoted := true } word
      leadToText channel (Expansion.flat (← get) glyphs)
    | none => leadToText channel []

/-- Carries out redirections, and tells whether they could be. -/
def applyAll (interpreter : Interpreter) (redirections : List Redirection) :
    Act (Option Nat) := do
  let rich := (← get).isRich
  let prepared ← Act.attempt (redirections.mapM (prepare interpreter))
  let ready ←
    match prepared, rich with
    | .error (.failed status), true => return some status
    | result, _ => Act.resume result
  match ← Act.attempt (ready.forM (apply interpreter)) with
  | .ok _ => return none
  | .error (.failed status) => return some status
  | .error interrupt => throw interrupt

/-- Carries out a step, and leads the channels back then. -/
def keeping {α : Type} (act : Act α) : Act α := do
  let channels := (← get).process.channels
  Act.finally' act fun shell => { shell with process := { shell.process with channels } }

end Redirecting

end Rehearsal

end InstallPlan

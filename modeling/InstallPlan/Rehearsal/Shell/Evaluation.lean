import InstallPlan.Rehearsal.Shell.Calling
import InstallPlan.Rehearsal.Shell.Testing

/-!
# Rehearsal — Carrying out commands

Carries out the commands of a script. A pipeline is carried out part by part,
each with the output of the part before it as its input; a command that goes on
by itself is carried out when it is waited for. A command whose status is looked
at does not end a shell that is to stop at the first failure.
-/

namespace InstallPlan

namespace Rehearsal

namespace Evaluation

/-- Ends a shell that is to stop at the first failure. -/
def checkFailure (interpreter : Interpreter) (tested : Bool) : Act Unit := do
  let shell ← get
  if shell.status ≠ 0 && !tested then
    if shell.isRich then
      match shell.traps.find? (·.1 == "ERR") with
      | some (_, script) => Calling.runTrap interpreter script
      | none => pure ()
    if shell.has "errexit" then throw (.ended shell.status)

/-- Carries out the body of a loop once, and tells whether the loop goes on. -/
def turn (body : Act Unit) : Act Bool := do
  modify fun shell => { shell with loops := shell.loops + 1 }
  let result ← Act.attempt body
  modify fun shell => { shell with loops := shell.loops - 1 }
  match result with
  | .ok _ => return true
  | .error (.out n) => if n ≤ 1 then return false else throw (.out (n - 1))
  | .error (.next n) => if n ≤ 1 then return true else throw (.next (n - 1))
  | .error interrupt => throw interrupt

section

variable (interpreter : Interpreter)

/-! ## Simple commands -/

/-- The builtins whose words may be assignments. -/
def declaring (rich : Bool) : List Raw :=
  ["export", "readonly", "local", "alias"].map raw
    ++ (if rich then ["declare", "typeset"].map raw else [])

/-- Whether words call a builtin whose further words may be assignments. -/
def declares (shell : Shell) (words : List Raw) : Bool :=
  match (Calling.unwrap shell.isRich (words.length + 1) { words }).words with
  | name :: _ =>
    (declaring shell.isRich).contains name
      && (shell.isRich || !shell.functions.any (·.1 = name) || name = raw "local")
  | [] => false

/-- The words of a command, and the arrays that a builtin is to set. -/
structure Called where
  words : List Raw := []
  arrays : List Assignment := []

/-- Expands the words of a command one after the other. -/
def expandWords : Called → List Word → Act Called
  | called, [] => return called
  | called, word :: rest => do
    let shell ← get
    if declares shell called.words then
      match Script.assignment? shell.isRich word with
      | none =>
        let texts ← Expansion.word interpreter word
        expandWords { called with words := called.words ++ texts } rest
      | some ⟨name, index, appends, value⟩ =>
        match value with
        | [.members _] =>
          expandWords
            { words := called.words ++ [name]
              arrays := called.arrays ++ [⟨name, index, appends, value⟩] }
            rest
        | _ =>
          let glyphs ← interpreter.expand { tilde := true, colons := true } value
          let front ←
            match index with
            | none => pure name
            | some index =>
              pure (name ++ ['['] ++ (← Expansion.index interpreter name index) ++ [']'])
          let sign := if appends then raw "+=" else ['=']
          let text := front ++ sign ++ Expansion.flat shell glyphs
          expandWords { called with words := called.words ++ [text] } rest
    else
      let texts ← Expansion.word interpreter word
      expandWords { called with words := called.words ++ texts } rest

/-- The members of an array behind those that it has. -/
def addMembers (name : Raw) : Nat → List Member → Act Unit
  | _, [] => pure ()
  | next, .mk index appends word :: rest => do
    match index with
    | some index =>
      let index ← Expansion.index interpreter name index
      Act.assignMember name index (← Expansion.text interpreter word) appends
      addMembers name ((argumentNumber? index).elim next (· + 1)) rest
    | none =>
      let values ← Expansion.word interpreter word
      let keyed := (← get).isKeyed name
      let items := values.mapIdx fun i value => (Raw.ofNat (next + i), value)
      if !keyed then items.forM fun (index, value) => Act.assignMember name index value false
      addMembers name (next + values.length) rest

/-- Carries out an assignment, and gives the value for the trace. -/
def assign : Assignment → Act Raw
  | ⟨name, index, appends, value⟩ => do
    match value, index with
    | [.members members], none =>
      let keyed := (← get).isKeyed name
      if !appends then
        Act.alter name fun setting =>
          { setting with value := some (if keyed then .table [] else .list []) }
      let last := ((← get).members name).getLast?.bind fun m => argumentNumber? m.1
      addMembers interpreter name (last.elim 0 (· + 1)) members
      return raw "()"
    | _, some index =>
      let index ← Expansion.index interpreter name index
      let text ← Expansion.assigned interpreter value
      Act.assignMember name index text appends
      return text
    | _, none =>
      let text ← Expansion.assigned interpreter value
      let shell ← get
      let counts := (shell.setting? name).any (·.isInteger)
      let old := (shell.value? name).getD []
      let text ←
        if counts then
          let n ← Act.compute text
          let m ← if appends then Act.compute old else pure 0
          pure (Raw.ofInt (wrap (n + m)))
        else pure (if appends then old ++ text else text)
      Act.assign name text
      return text

/-- The name and the value of an assignment, as they are shown. -/
def assignmentText (assignment : Assignment) (value : Raw) : Raw :=
  match assignment with
  | ⟨name, _, _, _⟩ => name ++ ['='] ++ value

/-- Shows a command before it is carried out, if that is asked for. -/
def trace (channels : List (Nat × Nat)) (assignments words : List Raw) : Act Unit := do
  let shell ← get
  if shell.has "xtrace" then
    let cursor : Script.Cursor :=
      { dialect := shell.dialect, rest := (shell.value? (raw "PS4")).getD [] }
    let mark : Word :=
      match Script.pieces { nested := fun _ => Script.refuse .tooDeep } (2 * cursor.rest.length + 2)
          .document .never cursor with
      | .ok word _ => word
      | .error _ _ => []
    modify fun shell => shell.withOption "xtrace" false
    let mark ← Expansion.quotedText interpreter mark
    modify fun shell => shell.withOption "xtrace" true
    let words := if shell.isRich then words.map Builtin.richShown else words
    let outer := (← get).process.channels
    modify fun shell => { shell with process := { shell.process with channels } }
    let _ ← Act.emit 2 (mark ++ Raw.joined [' '] (assignments ++ words) ++ ['\n'])
    modify fun shell => { shell with process := { shell.process with channels := outer } }

/-- Carries out assignments, and gives them as they are shown. -/
def assignAll (prepare : Raw → Act Unit) (finish : Raw → Act Unit)
    (assignments : List Assignment) : Act (List Raw) := do
  assignments.mapM fun assignment => do
    let ⟨name, _, _, _⟩ := assignment
    prepare name
    let value ← assign interpreter assignment
    finish name
    return assignmentText assignment value

/-- Makes a variable visible to programs. -/
def exportName (name : Raw) : Act Unit :=
  Act.change name fun setting => { setting with exported := true }

/-- Ends a command whose channels cannot be led elsewhere. -/
def refused (isSpecial : Bool) (status : Nat) : Act Unit := do
  Act.setStatus status
  if isSpecial && !(← get).isRich then throw (.failed status)

/-- Carries out a simple command. -/
def simple (tested : Bool) (assignments : List Assignment) (words : List Word)
    (redirections : List Redirection) : Act Unit := do
  modify fun shell => { shell with captured := 0 }
  let called ← expandWords interpreter {} words
  let shell ← get
  let channels := shell.process.channels
  let unwrapped := Calling.unwrap shell.isRich (called.words.length + 1) { words := called.words }
  let name := unwrapped.words.headD []
  let special := Meaning.builtin? shell.isRich name = some true && !shell.isRich
  let isSpecial := special && !unwrapped.isBare
  let plainly : Act Unit := do
    match ← Redirecting.applyAll interpreter redirections with
    | some status => refused false status
    | none =>
      let shownOnes ← assignAll interpreter (fun _ => pure ()) (fun _ => pure ()) assignments
      trace interpreter channels shownOnes []
      Act.setStatus (← get).captured
  let call : Act Unit := do
    match ← Redirecting.applyAll interpreter redirections with
    | some status => refused isSpecial status
    | none =>
      if isSpecial then
        let shownOnes ← assignAll interpreter (fun _ => pure ())
          (fun n => if name = raw "exec" ∧ 1 < unwrapped.words.length then exportName n
            else pure ()) assignments
        trace interpreter channels shownOnes called.words
        Calling.run interpreter tested unwrapped
      else if assignments.isEmpty then
        trace interpreter channels [] called.words
        Calling.run interpreter tested unwrapped
      else
        Act.withOwn do
          let shownOnes ← assignAll interpreter Act.keep exportName assignments
          trace interpreter channels shownOnes called.words
          Calling.run interpreter tested unwrapped
      let _ ← assignAll interpreter (fun _ => pure ()) (fun _ => pure ()) called.arrays
  if called.words.isEmpty then
    if redirections.isEmpty then plainly else Redirecting.keeping plainly
  else if redirections.isEmpty then call
  else if name = raw "exec" ∧ unwrapped.words.length ≤ 1 then call
  else Redirecting.keeping call

/-! ## Compound commands -/

/-- Carries out the parts of a pipeline, given the pipe that leads to the first, and
gives their statuses. -/
def pipeline (tested : Bool) : Option Nat → List Command → Act (List Nat)
  | _, [] => return []
  | input, part :: parts => do
    let shell ← get
    let (output, process) : Option Nat × Process :=
      if parts.isEmpty then (none, shell.process)
      else
        let (stream, process) := shell.process.adding { origin := .pipe [] }
        (some stream, process)
    Act.setProcess process
    let status ← Act.apart do
      modify fun shell =>
        let process := if input.isSome then shell.process.lead 0 input else shell.process
        { shell with
          process := if output.isSome then process.lead 1 output else process }
      Act.toTheEnd interpreter (interpreter.command tested part)
    return status :: (← pipeline tested output parts)

/-- The job of a command that goes on by itself. -/
def jobOf (shell : Shell) (id : Nat) (body : Command) : Job where
  id
  start := shell.process.system.clock
  carryOut deadline system :=
    let process := { shell.process with system, deadline := deadline.or shell.process.deadline }
    let (stream, process) := process.adding { origin := .device .null }
    let inner := { shell with process := process.lead 0 (some stream) }
    match Act.runApart interpreter false body inner with
    | .ok status after => (status, after.process.system)
    | .error _ after => (1, after.process.system)

/-- Carries out the turns of a loop over values. -/
def turns (tested : Bool) (name : Raw) (body : Command) : List Raw → Act Unit
  | [] => pure ()
  | value :: values => do
    Act.assign name value
    if ← turn (interpreter.command tested body) then turns tested name body values

/-- Carries out a loop with a condition. -/
def loop (condition : Act Bool) (body step : Act Unit) : Nat → Nat → Act Unit
  | 0, _ => throw .exhausted
  | steps + 1, status => do
    let mut goesOn := false
    modify fun shell => { shell with loops := shell.loops + 1 }
    let result ← Act.attempt condition
    modify fun shell => { shell with loops := shell.loops - 1 }
    match result with
    | .ok holds => goesOn := holds
    | .error (.out n) => if 1 < n then throw (.out (n - 1))
    | .error (.next n) =>
      if 1 < n then throw (.next (n - 1))
      return ← loop condition body step steps status
    | .error interrupt => throw interrupt
    if goesOn then
      if ← turn body then
        let status := (← get).status
        step
        loop condition body step steps status
    else Act.setStatus status

/-- Whether a text matches one of some patterns. -/
def matchesAny (text : Raw) : List Word → Act Bool
  | [] => return false
  | pattern :: patterns => do
    if Pattern.accepts (← Expansion.pattern interpreter pattern) text then return true
    else matchesAny text patterns

/-- Carries out the cases of a choice from the first that matches. -/
def cases (tested : Bool) (text : Raw) (falls : Bool) :
    List (List Word × Command × CaseEnd) → Act Unit
  | [] => if falls then pure () else Act.setStatus 0
  | (patterns, body, ending) :: more => do
    if falls || (← matchesAny interpreter text patterns) then
      Act.setStatus 0
      interpreter.command tested body
      match ending with
      | .leave => pure ()
      | .fall => cases tested text true more
      | .resume =>
        let status := (← get).status
        if ← anyOf more then cases tested text false more else Act.setStatus status
    else cases tested text false more
where
  /-- Whether one of some cases matches. -/
  anyOf : List (List Word × Command × CaseEnd) → Act Bool
    | [] => return false
    | (patterns, _, _) :: more => do
      if ← matchesAny interpreter text patterns then return true else anyOf more

/-- Sets the status by whether something holds. -/
def judge (act : Act Bool) : Act Unit := do
  match ← Act.attempt act with
  | .ok holds => Act.setStatus (if holds then 0 else 1)
  | .error (.failed status) => Act.setStatus status
  | .error .abandoned => Act.setStatus 1
  | .error interrupt => throw interrupt

/-- A bound on the turns of a loop. -/
def maxTurns : Nat := 10000000

/-- Carries out a command. -/
def carryOut (tested : Bool) (command : Command) : Act Unit := do
  let onLine (line : Nat) : Act Unit := modify fun shell => { shell with line }
  match command with
  | .nothing => Act.setStatus 0
  | .simple line assignments words redirections =>
    onLine line
    simple interpreter tested assignments words redirections
    checkFailure interpreter tested
  | .redirected line body redirections =>
    onLine line
    let within (act : Act Unit) : Act Unit :=
      Redirecting.keeping do
        match ← Redirecting.applyAll interpreter redirections with
        | none => act
        | some status => Act.setStatus status
    match body with
    | .subshell _ inner =>
      within do Act.setStatus (← Act.runApart interpreter tested inner)
      checkFailure interpreter tested
    | body =>
      within (interpreter.command tested body)
      if (← get).isRich then checkFailure interpreter tested
  | .pipeline parts =>
    let statuses ← pipeline interpreter tested none parts
    let failed := statuses.reverse.find? (· ≠ 0)
    if (← get).isRich then
      let items := statuses.mapIdx fun i status => (i, Raw.ofNat status)
      Act.change (raw "PIPESTATUS") fun setting => { setting with value := some (.list items) }
    Act.setStatus
      (if (← get).has "pipefail" then failed.getD 0 else statuses.getLast?.getD 0)
    checkFailure interpreter tested
  | .negated body =>
    interpreter.command true body
    modify fun shell => { shell with status := if shell.status = 0 then 1 else 0 }
  | .both first second =>
    interpreter.command true first
    if (← get).status = 0 then interpreter.command tested second
  | .either first second =>
    interpreter.command true first
    if (← get).status ≠ 0 then interpreter.command tested second
  | .sequence first second =>
    interpreter.command tested first
    interpreter.command tested second
  | .background line body =>
    onLine line
    let shell ← get
    let id := shell.process.system.lastId + 1
    set { shell with
      jobs := shell.jobs ++ [jobOf interpreter shell id body]
      lastJob := some id
      process := { shell.process with system := { shell.process.system with lastId := id } }
      status := 0 }
  | .subshell line body =>
    onLine line
    Act.setStatus (← Act.runApart interpreter tested body)
    checkFailure interpreter tested
  | .forEach line name words body =>
    onLine line
    let values ←
      match words with
      | some words => Expansion.words interpreter words
      | none => pure (← get).arguments
    Act.setStatus 0
    turns interpreter tested name body values
  | .counting line first condition step body =>
    onLine line
    let number (word : Word) (standard : Int) : Act Int := do
      let text ← Expansion.quotedText interpreter word
      if text.all isBlank then return standard else Act.compute text
    let _ ← number first 0
    loop (return (← number condition 1) ≠ 0) (interpreter.command tested body)
      (do let _ ← number step 0) maxTurns 0
  | .loop goal condition body =>
    let test : Act Bool := do
      interpreter.command true condition
      return ((← get).status == 0) = goal
    loop test (interpreter.command tested body) (pure ()) maxTurns 0
  | .branch condition yes no =>
    interpreter.command true condition
    if (← get).status = 0 then interpreter.command tested yes else interpreter.command tested no
  | .choice line word found =>
    onLine line
    let text ← Expansion.text interpreter word
    cases interpreter tested text false found
  | .define _ name body =>
    modify fun shell =>
      { shell with
        functions := (name, body) :: shell.functions.filter (·.1 ≠ name)
        status := 0 }
  | .condition line test =>
    onLine line
    judge (Testing.holds interpreter test)
    checkFailure interpreter tested
  | .arithmetic line expression =>
    onLine line
    judge (return (← Expansion.number interpreter expression) ≠ 0)
    checkFailure interpreter tested

end

end Evaluation

end Rehearsal

end InstallPlan

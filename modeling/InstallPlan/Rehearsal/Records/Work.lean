import InstallPlan.Rehearsal.Errand.Calling
import InstallPlan.Rehearsal.Records.Reading

/-!
# Rehearsal — Programs about records at work

Carries out a program about records: reads the input record by record, divides
records into fields, and evaluates expressions. The record and its fields are kept
in step: each is made anew from the other when it is asked for.
-/

namespace InstallPlan

namespace Rehearsal

namespace Records

/-- Where something that was printed before goes. -/
inductive Outlet where
  | stream (number : Nat)
  /-- The input of a command that is called at the end, the last part first. -/
  | command (text : List Raw)

/-- A variable of a function: its value, and the number of the array that it may be. -/
structure Local where
  cell : Cell
  array : Nat

/-- A program at work. -/
structure Machine where
  desk : Desk
  program : Program
  globals : List (Raw × Cell) := []
  /-- The numbers of the arrays of the program. -/
  tables : List (Raw × Nat) := []
  arrays : Array (List (Raw × Cell)) := #[]
  locals : List (Raw × Local) := []
  record : Raw := []
  fields : Array Cell := #[]
  /-- Whether the record must be made anew from its fields. -/
  isRecordOld : Bool := false
  /-- Whether the fields must be made anew from the record. -/
  areFieldsOld : Bool := false
  outlets : List (Raw × Outlet) := []
  /-- What is left of the files and commands that are read by name. -/
  sources : List ((Bool × Raw) × Raw) := []
  /-- The number of the operand that is read next. -/
  operand : Nat := 1
  /-- What is left of the operand that is read. -/
  input : Option Raw := none
  hasOperands : Bool := false
  /-- The rules whose ranges are open. -/
  openRanges : List Nat := []
  seed : Nat := 0

/-- What keeps a program from going on to the next statement. -/
inductive Stop where
  | next
  | nextFile
  | exit
  | back (value : Cell)
  | leave
  | again
  | halted (halt : Halt)

/-- A step of a program. -/
abbrev Work := EStateM Stop Machine

namespace Work

/-- Carries out a step of the utility. -/
def lift {α : Type} (errand : Errand α) : Work α := fun machine =>
  match errand machine.desk with
  | .ok a desk => .ok a { machine with desk }
  | .error halt desk => .error (.halted halt) { machine with desk }

/-- Ends the program for an error. -/
def die {α : Type} (message : Raw) : Work α := lift (Errand.die 2 message)

/-! ## Variables -/

/-- The value of a variable of the program. -/
def global (name : String) : Work Cell := do
  return (((← get).globals.find? (·.1 = raw name)).map (·.2)).getD .unset

/-- Sets a variable of the program. -/
def setGlobal (name : Raw) (cell : Cell) : Work Unit := do
  let machine ← get
  let globals :=
    if machine.globals.any (·.1 = name) then
      machine.globals.map fun g => if g.1 = name then (name, cell) else g
    else (name, cell) :: machine.globals
  set { machine with globals }

/-- The form of numbers that become texts. -/
def form : Work Raw := return (← global "CONVFMT").toText (raw "%.6g")

/-- A value as a text. -/
def textOf (cell : Cell) : Work Raw := do
  match cell with
  | .number _ => return cell.toText (← form)
  | _ => return cell.toText []

/-- The text of a variable of the program. -/
def globalText (name : String) : Work Raw := do textOf (← global name)

/-- The number of a new array. -/
def newArray : Work Nat := do
  let machine ← get
  set { machine with arrays := machine.arrays.push [] }
  return machine.arrays.size

/-- The number of the array of a name. -/
def arrayOf (name : Raw) : Work Nat := do
  let machine ← get
  match machine.locals.lookup name with
  | some inner => return inner.array
  | none =>
    match machine.tables.lookup name with
    | some number => return number
    | none =>
      let number ← newArray
      modify fun machine => { machine with tables := (name, number) :: machine.tables }
      return number

/-- The members of an array. -/
def members (number : Nat) : Work (List (Raw × Cell)) := do
  return ((← get).arrays[number]?).getD []

/-- Changes the members of an array. -/
def setMembers (number : Nat) (found : List (Raw × Cell)) : Work Unit :=
  modify fun machine => { machine with arrays := machine.arrays.modify number fun _ => found }

/-- Sets a member of an array. -/
def setMember (number : Nat) (key : Raw) (cell : Cell) : Work Unit := do
  let found ← members number
  setMembers number
    (if found.any (·.1 = key) then found.map fun m => if m.1 = key then (key, cell) else m
      else (key, cell) :: found)

/-- The value of a member of an array, which is made by being asked for. -/
def member (number : Nat) (key : Raw) : Work Cell := do
  match (← members number).lookup key with
  | some cell => return cell
  | none =>
    setMember number key .unset
    return .unset

/-- The place of a key among the keys of an array. -/
def bucket (key : Raw) : Nat :=
  (key.foldl (fun code c => (code ^^^ c.toNat) * 16777619 % Nat.pow 2 32) 2166136261) % 64

/-- The keys of an array, in the order in which they are gone through. -/
def keys (number : Nat) : Work (List Raw) := do
  return ((← members number).map (·.1)).mergeSort fun a b => decide (bucket a ≤ bucket b)

/-- Ends the program for an error in a statement, and tells which record is at hand. -/
def dieAtRecord {α : Type} (message : Raw) : Work α := do
  let file ← globalText "FILENAME"
  let inFile ← globalText "FNR"
  let inAll ← globalText "NR"
  die (raw "run time error: " ++ message ++ raw "\n\tFILENAME=\"" ++ file ++ raw "\" FNR="
    ++ inFile ++ raw " NR=" ++ inAll)

/-! ## Records and fields -/

/-- An expression that a text is. -/
def regexOf (text : Raw) : Work Regex := do
  match Regex.read dialect text with
  | .ok regex => return regex
  | .error _ =>
    die (raw "regular expression compile failed (bad syntax)\n" ++ text)

/-- The pieces of a text between the matches of an expression, in at most so many
steps. -/
def pieces (regex : Regex) (subject : Regex.Subject) : Nat → Nat → Nat → List Raw
  | 0, start, _ => [(subject.text.extract start subject.text.size).toList]
  | steps + 1, start, p =>
    match regex.search subject p with
    | some found =>
      if found.first = found.last then
        if found.last < subject.text.size then pieces regex subject steps start (found.last + 1)
        else [(subject.text.extract start subject.text.size).toList]
      else
        (subject.text.extract start found.first).toList
          :: pieces regex subject steps found.last found.last
    | none => [(subject.text.extract start subject.text.size).toList]

/-- The words of a text. -/
def wordsOf (text : Raw) : List Raw :=
  (Raw.split ' ' (text.map fun c => if isBlank c then ' ' else c)).filter (· ≠ [])

/-- A text divided by a separator: a blank for words, another character, or an
expression. -/
def divided (separator text : Raw) (isRegex : Bool) : Work (List Raw) := do
  if text = [] then return []
  else
    match separator, isRegex with
    | [' '], false => return wordsOf text
    | [], _ => return text.map fun c => [c]
    | [c], false => return Raw.split c text
    | _, _ =>
      let regex ← regexOf separator
      return pieces regex { text := text.toArray } (text.length + 1) 0 0

/-- The fields of a record. -/
def fieldsOf (record : Raw) : Work (Array Cell) := do
  let found ← divided (← globalText "FS") record false
  return (found.map Cell.outside).toArray

/-- Makes the fields anew if they are old. -/
def divide : Work Unit := do
  let machine ← get
  if machine.areFieldsOld then
    let fields ← fieldsOf machine.record
    modify fun machine => { machine with fields, areFieldsOld := false }

/-- The record. -/
def record : Work Raw := do
  let machine ← get
  if machine.isRecordOld then
    let separator ← globalText "OFS"
    let texts ← machine.fields.toList.mapM textOf
    let record := Raw.joined separator texts
    modify fun machine => { machine with record, isRecordOld := false }
    return record
  else return machine.record

/-- Sets the record. -/
def setRecord (text : Raw) : Work Unit :=
  modify fun machine =>
    { machine with record := text, areFieldsOld := true, isRecordOld := false, fields := #[] }

/-- A field. -/
def field (number : Nat) : Work Cell := do
  if number = 0 then return .outside (← record)
  else
    divide
    return ((← get).fields[number - 1]?).getD .unset

/-- Sets the number of fields. -/
def setCount (count : Nat) : Work Unit := do
  divide
  modify fun machine =>
    let kept := machine.fields.toList.take count
    let fields := kept ++ List.replicate (count - kept.length) (Cell.outside [])
    { machine with fields := fields.toArray, isRecordOld := true }

/-- Sets a field. -/
def setField (number : Nat) (cell : Cell) : Work Unit := do
  if number = 0 then setRecord (← textOf cell)
  else
    divide
    if (← get).fields.size < number then setCount number
    modify fun machine =>
      { machine with fields := machine.fields.modify (number - 1) fun _ => cell, isRecordOld := true }

/-- The value of a variable. -/
def valueOf (name : Raw) : Work Cell := do
  match (← get).locals.lookup name with
  | some inner => return inner.cell
  | none =>
    if name = raw "NF" then
      divide
      return .ofNat (← get).fields.size
    else global (String.ofList name)

/-- Sets a variable. -/
def setVariable (name : Raw) (cell : Cell) : Work Unit := do
  let machine ← get
  if machine.locals.any (·.1 = name) then
    set { machine with
      locals := machine.locals.map fun (l : Raw × Local) =>
        if l.1 = name then (name, { l.2 with cell }) else l }
  else if name = raw "NF" then
    setCount (Real.ofFloat cell.toNumber).truncated.toNat
  else setGlobal name cell

/-! ## Input -/

/-- A text without the line breaks in front. -/
def withoutBreaks (text : Raw) : Raw := text.dropWhile (· = '\n')

/-- The first record of a text that an empty separator divides, in at most so many
steps, and what follows it. -/
def paragraph : Nat → Raw → Raw × Raw
  | 0, rest => ([], rest)
  | _, [] => ([], [])
  | steps + 1, '\n' :: rest =>
    if rest.head? = some '\n' ∨ rest = [] then ([], withoutBreaks rest)
    else
      let (more, rest) := paragraph steps rest
      ('\n' :: more, rest)
  | steps + 1, c :: rest =>
    let (more, rest) := paragraph steps rest
    (c :: more, rest)

/-- The first record of a text, and what follows it. -/
def firstRecord (text : Raw) : Work (Option (Raw × Raw)) := do
  let separator ← globalText "RS"
  match separator with
  | [] =>
    let text := withoutBreaks text
    return if text = [] then none else some (paragraph (text.length + 1) text)
  | [c] =>
    if text = [] then return none
    else
      let found := text.takeWhile (· ≠ c)
      return some (found, text.drop (found.length + 1))
  | _ =>
    if text = [] then return none
    else
      let regex ← regexOf separator
      let subject : Regex.Subject := { text := text.toArray }
      match regex.search subject 0 with
      | some found =>
        if found.first = found.last then return some (text, [])
        else return some (text.take found.first, text.drop found.last)
      | none => return some (text, [])

/-- A text with its escapes replaced, as in a text of a program. -/
def unescaped (text : Raw) : Raw :=
  let quoted := text.flatMap fun c => if c = '"' then ['\\', '"'] else [c]
  match Token.textUpTo (quoted.length + 2) (quoted ++ ['"']) with
  | some (found, _) => found
  | none => text

/-- Sets a variable if an operand asks for that. -/
def assigned (operand : Raw) : Work Bool := do
  let name := operand.takeWhile fun c => c.isAlphanum || c = '_'
  match operand.drop name.length, name with
  | '=' :: value, c :: _ =>
    if c.isDigit then return false
    else
      setVariable name (.outside (unescaped value))
      return true
  | _, _ => return false

/-- Opens the next operand of the input, in at most so many steps. Nothing if there
is none. -/
def nextInput : Nat → Work (Option Raw)
  | 0 => return none
  | steps + 1 => do
    let machine ← get
    let count := (Real.ofFloat (← global "ARGC").toNumber).truncated.toNat
    if count ≤ machine.operand then
      if machine.hasOperands then return none
      else
        set { machine with hasOperands := true }
        setGlobal (raw "FILENAME") (.outside ['-'])
        match ← lift (Errand.drain 0) with
        | .ok text => return some text
        | .error _ => return some []
    else
      set { machine with operand := machine.operand + 1 }
      let key := Raw.ofNat machine.operand
      let cell := ((← members (← arrayOf (raw "ARGV"))).lookup key).getD .unset
      let path ← textOf cell
      if path = [] then nextInput steps
      else if ← assigned path then nextInput steps
      else
        modify fun machine => { machine with hasOperands := true }
        match ← lift (Errand.content path) with
        | .ok text =>
          setGlobal (raw "FILENAME") (.outside path)
          setGlobal (raw "FNR") (.ofNat 0)
          return some text
        | .error reason =>
          die (raw "cannot open \"" ++ path ++ raw "\" (" ++ raw reason.reason ++ [')'])

/-- The next record of the input, in at most so many steps. -/
def nextRecord : Nat → Work (Option Raw)
  | 0 => return none
  | steps + 1 => do
    match (← get).input with
    | none =>
      match ← nextInput 100000 with
      | none => return none
      | some text =>
        modify fun machine => { machine with input := some text }
        nextRecord steps
    | some text =>
      match ← firstRecord text with
      | some (found, rest) =>
        modify fun machine => { machine with input := some rest }
        return some found
      | none =>
        modify fun machine => { machine with input := none }
        nextRecord steps

/-- Counts a record. -/
def count (names : List String) : Work Unit :=
  names.forM fun name => do
    setGlobal (raw name) (.number ((← global name).toNumber + 1))

/-! ## Output -/

/-- Calls a command of the shell with a text to read. What was printed since the
first part of that text comes behind what the command prints. -/
def callWith (call : Caller) (command input : Raw) : Work Nat := do
  let before ← lift Errand.process
  let (stream, process) := before.adding { origin := .pipe input, writes := false }
  lift (Errand.setProcess (process.lead 0 (some stream)))
  let result ← lift (call [raw "/bin/sh", raw "-c", command])
  let after ← lift Errand.process
  lift (Errand.setProcess { after with channels := before.channels })
  match result with
  | .ok halt => return halt.status
  | .error _ => return 127

/-- What a command of the shell prints. -/
def outputOf (call : Caller) (command : Raw) : Work Raw := do
  lift Errand.flush
  let before ← lift Errand.process
  let (stream, process) := before.adding { origin := .pipe [], reads := false }
  lift (Errand.setProcess (process.lead 1 (some stream)))
  let _ ← lift (call [raw "/bin/sh", raw "-c", command])
  let after ← lift Errand.process
  lift (Errand.setProcess { after with channels := before.channels })
  match after.system.origin? stream with
  | some (.pipe text) => return text
  | _ => return []

/-- Calls a command of the shell that reads what the program reads. -/
def callPlainly (call : Caller) (command : Raw) : Work Nat := do
  lift Errand.flush
  match ← lift (call [raw "/bin/sh", raw "-c", command]) with
  | .ok (.killed signal) => return 256 + signal
  | .ok halt => return halt.status
  | .error _ => return 127

/-- Opens an outlet. -/
def openOutlet (goal : Goal) (name : Raw) : Work Outlet := do
  match goal with
  | .command =>
    lift Errand.flush
    return .command []
  | goal =>
    let access := match goal with
      | .extension => Access.appending
      | _ => Access.writing
    match (← lift Errand.process).openPath name access with
    | .ok (stream, process) =>
      lift (Errand.setProcess process)
      return .stream stream
    | .error reason =>
      die (raw "cannot open \"" ++ name ++ raw "\" for output (" ++ raw reason.reason ++ [')'])

/-- Prints a text. -/
def put (goal : Option (Goal × Raw)) (text : Raw) : Work Unit := do
  let named (name : Raw) : Bool :=
    match goal with
    | some (.command, _) => false
    | some (_, given) => given = name
    | none => false
  match goal with
  | none => lift (Errand.say text)
  | some (goal, name) =>
    if named (raw "/dev/stdout") ∨ named ['-'] then lift (Errand.say text)
    else if named (raw "/dev/stderr") then lift (Errand.shout text)
    else
      let outlet ←
        match (← get).outlets.lookup name with
        | some outlet => pure outlet
        | none =>
          let outlet ← openOutlet goal name
          modify fun machine => { machine with outlets := machine.outlets ++ [(name, outlet)] }
          pure outlet
      match outlet with
      | .stream stream =>
        let process ← lift Errand.process
        match process.system.write stream text with
        | .ok system => lift (Errand.setProcess { process with system })
        | .error _ => die (raw "write failure")
      | .command parts =>
        modify fun machine =>
          { machine with
            outlets := machine.outlets.map fun o =>
              if o.1 = name then (name, .command (text :: parts)) else o }

/-- Closes a file or a command, and gives its status. -/
def close (call : Caller) (name : Raw) : Work Int := do
  let machine ← get
  match machine.outlets.lookup name with
  | some outlet =>
    set { machine with outlets := machine.outlets.filter (·.1 ≠ name) }
    match outlet with
    | .stream _ => return 0
    | .command parts => return (← callWith call name parts.reverse.flatten : Nat)
  | none =>
    if machine.sources.any (·.1.2 = name) then
      set { machine with sources := machine.sources.filter (·.1.2 ≠ name) }
      return 0
    else return -1

/-- Closes all that is open. -/
def closeAll (call : Caller) : Work Unit := do
  let outlets := (← get).outlets
  outlets.forM fun (name, _) => do
    let _ ← close call name

/-! ## Functions of the language -/

/-- What a replacement puts in the place of a match. -/
def replacement (matched : Raw) : Raw → Raw
  | '\\' :: '&' :: rest => '&' :: replacement matched rest
  | '\\' :: '\\' :: '&' :: rest => '\\' :: matched ++ replacement matched rest
  | '&' :: rest => matched ++ replacement matched rest
  | c :: rest => c :: replacement matched rest
  | [] => []

/-- A text with its matches replaced, and how many there are, in at most so many
steps. A match without characters does not count right behind another one. -/
def replaced (regex : Regex) (subject : Regex.Subject) (written : Raw) (isGlobal : Bool) :
    Nat → Nat → Option Nat → Raw × Nat
  | 0, p, _ => ((subject.text.extract p subject.text.size).toList, 0)
  | steps + 1, p, behind =>
    if subject.text.size < p then ([], 0)
    else
      match regex.search subject p with
      | none => ((subject.text.extract p subject.text.size).toList, 0)
      | some found =>
        let lead := (subject.text.extract p found.first).toList
        let matched := (subject.text.extract found.first found.last).toList
        let isEmpty := found.first = found.last
        let onward := if isEmpty then found.last + 1 else found.last
        let skipped : Raw :=
          if isEmpty then (subject.text.extract found.last (found.last + 1)).toList else []
        if isEmpty ∧ behind = some found.first then
          let (more, count) := replaced regex subject written isGlobal steps onward none
          (lead ++ skipped ++ more, count)
        else
          let text := replacement matched written
          if isGlobal then
            let (more, count) :=
              replaced regex subject written isGlobal steps onward (some found.last)
            (lead ++ text ++ skipped ++ more, count + 1)
          else
            (lead ++ text ++ (subject.text.extract found.last subject.text.size).toList, 1)

/-- The part of a text that begins at a position and has a length, both rounded. -/
def partOf (text : Raw) (start : Float) (length : Option Float) : Raw :=
  let first := (Real.ofFloat start.round).truncated
  let last : Int :=
    match length with
    | some n => (Real.ofFloat (start + n).round).truncated
    | none => text.length + 1
  let from' := (max first 1).toNat - 1
  let stop := (min last (text.length + 1)).toNat - 1
  (text.drop from').take (stop - from')

/-- The position at which a text occurs in another one; zero if it does not. -/
def positionOf (text part : Raw) : Nat :=
  let starts := List.range (text.length + 1)
  match starts.find? fun i => part.isPrefixOf (text.drop i) with
  | some i => if part = [] then 0 else i + 1
  | none => 0

/-- Two numbers computed. -/
def computed (operator : Arithmetical) (a b : Float) : Float :=
  match operator with
  | .plus => a + b
  | .minus => a - b
  | .times => a * b
  | .over => a / b
  | .modulo =>
    match Real.ofFloat a, Real.ofFloat b with
    | .finite n m e, .finite _ k f =>
      if k = 0 then 0.0 / 0.0
      else
        let low := min e f
        let left := m * Nat.pow 2 (e - low).toNat
        let right := k * Nat.pow 2 (f - low).toNat
        (Real.finite n (left % right) low).toFloat
    | _, .infinite _ => a
    | _, _ => 0.0 / 0.0
  | .power => Float.pow a b

/-- Whether a comparison holds of an order. -/
def holds (comparison : Comparison) (less equal : Bool) : Bool :=
  match comparison with
  | .less => less
  | .atMost => less || equal
  | .equal => equal
  | .different => !equal
  | .more => !less && !equal
  | .atLeast => !less

/-- Compares two values: as numbers if both are some, or else as texts. -/
def compared (comparison : Comparison) (a b : Cell) : Work Bool := do
  match a.comparable?, b.comparable? with
  | some x, some y => return holds comparison (x < y) (x == y)
  | _, _ =>
    let s ← textOf a
    let t ← textOf b
    return holds comparison (s.atMost t && s ≠ t) (s = t)

/-- The whole part of a value that is not below zero. -/
def naturalOf (cell : Cell) : Work Nat := do
  let n := (Real.ofFloat cell.toNumber).truncated
  if n < 0 then dieAtRecord (raw "negative field index $" ++ Raw.ofInt n) else return n.toNat

/-! ## Loops -/

/-- Carries out the body of a loop once, and tells whether the loop goes on. -/
def turn (body : Work Unit) : Work Bool :=
  tryCatch
    (do
      body
      return true)
    fun stop => do
      match stop with
      | .leave => return false
      | .again => return true
      | stop => throw stop

/-- Carries out a loop, in at most so many turns. -/
def turns (condition : Work Bool) (body step : Work Unit) : Nat → Work Unit
  | 0 => throw (.halted .exhausted)
  | count + 1 => do
    if ← condition then
      if ← turn body then
        step
        turns condition body step count

/-- Carries out a loop for some values of a variable. -/
def turnsFor (name : Raw) (body : Work Unit) : List Raw → Work Unit
  | [] => pure ()
  | found :: more => do
    setVariable name (.outside found)
    if ← turn body then turnsFor name body more

/-! ## Expressions and statements -/

mutual

/-- The value of an expression. -/
def value (call : Caller) : Nat → Expr → Work Cell
  | 0, _ => throw (.halted .exhausted)
  | steps + 1, expression => do
    let number (e : Expr) : Work Float := return (← value call steps e).toNumber
    let text (e : Expr) : Work Raw := do textOf (← value call steps e)
    match expression with
    | .number n => return .number n
    | .text t => return .text t
    | .regex written =>
      return .ofBool ((← regexOf written).occurs { text := (← record).toArray })
    | .name n => valueOf n
    | .member array written =>
      let key ← key call steps written
      member (← arrayOf array) key
    | .field e => field (← naturalOf (← value call steps e))
    | .assign none target e =>
      let cell ← value call steps e
      store call steps target cell
      return cell
    | .assign (some operator) target e =>
      let right ← number e
      let left ← number target
      let cell := Cell.number (computed operator left right)
      store call steps target cell
      return cell
    | .step amount isAfter target =>
      let before ← number target
      let after := before + Float.ofInt amount
      store call steps target (.number after)
      return .number (if isAfter then before else after)
    | .unary .not e => return .ofBool (!(← value call steps e).isTrue)
    | .unary .minus e => return .number (-(← number e))
    | .unary .plus e => return .number (← number e)
    | .compute operator a b =>
      let left ← number a
      let right ← number b
      return .number (computed operator left right)
    | .compare comparison a b =>
      let left ← value call steps a
      let right ← value call steps b
      return .ofBool (← compared comparison left right)
    | .matching isWanted a pattern =>
      let subject ← text a
      let regex ← regexIn call steps pattern
      return .ofBool (regex.occurs { text := subject.toArray } == isWanted)
    | .both a b =>
      if (← value call steps a).isTrue then
        return .ofBool (← value call steps b).isTrue
      else return .ofBool false
    | .either a b =>
      if (← value call steps a).isTrue then return .ofBool true
      else return .ofBool (← value call steps b).isTrue
    | .choose c a b =>
      if (← value call steps c).isTrue then value call steps a else value call steps b
    | .contains written array =>
      let key ← key call steps written
      return .ofBool ((← members (← arrayOf array)).any (·.1 = key))
    | .joined a b =>
      let left ← text a
      let right ← text b
      return .text (left ++ right)
    | .call name arguments => calledFunction call steps name arguments
    | .builtin name arguments => builtin call steps name arguments
    | .readLine target source => lineFrom call steps target source

/-- The key of a member that some values stand for. -/
def key (call : Caller) : Nat → List Expr → Work Raw
  | 0, _ => throw (.halted .exhausted)
  | steps + 1, written => do
    let texts ← written.mapM fun e => do textOf (← value call steps e)
    return Raw.joined (← globalText "SUBSEP") texts

/-- The expression that an operand of a match stands for. -/
def regexIn (call : Caller) : Nat → Expr → Work Regex
  | 0, _ => throw (.halted .exhausted)
  | steps + 1, expression => do
    match expression with
    | .regex written => regexOf written
    | e => regexOf (← textOf (← value call steps e))

/-- Assigns a value. -/
def store (call : Caller) : Nat → Expr → Cell → Work Unit
  | 0, _, _ => throw (.halted .exhausted)
  | steps + 1, target, cell => do
    match target with
    | .name n => setVariable n cell
    | .member array written =>
      let key ← key call steps written
      setMember (← arrayOf array) key cell
    | .field e => setField (← naturalOf (← value call steps e)) cell
    | _ => pure ()

/-- Calls a function of the program. -/
def calledFunction (call : Caller) : Nat → Raw → List Expr → Work Cell
  | 0, _, _ => throw (.halted .exhausted)
  | steps + 1, name, arguments => do
    match (← get).program.functions.find? (·.name = name) with
    | none => die (raw "function " ++ name ++ raw " never defined")
    | some function =>
      let given ← arguments.mapM fun argument => do
        match argument with
        | .name n =>
          let cell ← valueOf n
          return ({ cell, array := ← arrayOf n } : Local)
        | e =>
          let cell ← value call steps e
          return { cell, array := ← newArray }
      let missing ← (function.parameters.drop given.length).mapM fun _ => do
        return ({ cell := .unset, array := ← newArray } : Local)
      let outer := (← get).locals
      modify fun machine => { machine with locals := function.parameters.zip (given ++ missing) }
      let result ← tryCatch
        (do
          carryOut call steps function.body
          return Cell.unset)
        fun stop => do
          match stop with
          | .back cell => return cell
          | stop => throw stop
      modify fun machine => { machine with locals := outer }
      return result

/-- Calls a function of the language. -/
def builtin (call : Caller) : Nat → String → List Expr → Work Cell
  | 0, _, _ => throw (.halted .exhausted)
  | steps + 1, name, arguments => do
    let number (e : Expr) : Work Float := return (← value call steps e).toNumber
    let text (e : Expr) : Work Raw := do textOf (← value call steps e)
    match name, arguments with
    | "length", [] => return .ofNat (← record).length
    | "length", [.name n] =>
      let cell ← valueOf n
      let found ← members (← arrayOf n)
      match cell, found with
      | .unset, _ :: _ => return .ofNat found.length
      | cell, _ => return .ofNat (← textOf cell).length
    | "length", [e] => return .ofNat (← text e).length
    | "substr", [e, start] =>
      let t ← text e
      return .text (partOf t (← number start) none)
    | "substr", [e, start, count] =>
      let t ← text e
      let first ← number start
      return .text (partOf t first (some (← number count)))
    | "index", [e, part] =>
      let t ← text e
      return .ofNat (positionOf t (← text part))
    | "split", e :: .name array :: more =>
      let t ← text e
      let found ←
        match more with
        | [] => divided (← globalText "FS") t false
        | .regex written :: _ => divided written t true
        | separator :: _ => divided (← text separator) t false
      let number ← arrayOf array
      setMembers number
        (found.mapIdx fun i piece => (Raw.ofNat (i + 1), Cell.outside piece)).reverse
      return .ofNat found.length
    | "sub", pattern :: written :: more => substituted call steps false pattern written more.head?
    | "gsub", pattern :: written :: more => substituted call steps true pattern written more.head?
    | "match", [e, pattern] =>
      let t ← text e
      let regex ← regexIn call steps pattern
      let (start, length) : Nat × Int :=
        match regex.search { text := t.toArray } 0 with
        | some found => (found.first + 1, (found.last - found.first : Nat))
        | none => (0, -1)
      setGlobal (raw "RSTART") (.ofNat start)
      setGlobal (raw "RLENGTH") (.number (Float.ofInt length))
      return .ofNat start
    | "sprintf", e :: more =>
      let written ← text e
      let values ← more.mapM (value call steps)
      return .text (← formatted "sprintf" written values)
    | "sin", [e] => return .number (Float.sin (← number e))
    | "cos", [e] => return .number (Float.cos (← number e))
    | "atan2", [y, x] =>
      let first ← number y
      return .number (Float.atan2 first (← number x))
    | "exp", [e] => return .number (Float.exp (← number e))
    | "log", [e] => return .number (Float.log (← number e))
    | "sqrt", [e] => return .number (Float.sqrt (← number e))
    | "int", [e] =>
      let x ← number e
      return .number (if x < 0 then x.ceil else x.floor)
    | "rand", _ =>
      let seed := ((← get).seed * 1103515245 + 12345) % Nat.pow 2 31
      modify fun machine => { machine with seed }
      return .number (Float.ofNat seed / Float.ofNat (Nat.pow 2 31))
    | "srand", more =>
      let before := (← get).seed
      let seed ←
        match more with
        | e :: _ => pure (Real.ofFloat (← number e)).truncated.natAbs
        | [] => pure ((← lift Errand.process).system.clock.fdiv 1000000000).toNat
      modify fun machine => { machine with seed }
      return .ofNat before
    | "tolower", [e] => return .text ((← text e).map Char.toLower)
    | "toupper", [e] => return .text ((← text e).map Char.toUpper)
    | "system", [e] => return .ofNat (← callPlainly call (← text e))
    | "close", e :: _ => return .number (Float.ofInt (← close call (← text e)))
    | "fflush", _ =>
      lift Errand.flush
      return .ofNat 0
    | "systime", _ =>
      let clock := (← lift Errand.process).system.clock
      return .number (Float.ofInt (clock.fdiv 1000000000))
    | "strftime", more =>
      let written ← match more with
        | e :: _ => text e
        | [] => pure (raw "%c")
      let seconds : Int ← match more with
        | _ :: e :: _ => pure (Real.ofFloat (← number e)).truncated
        | _ => pure ((← lift Errand.process).system.clock.fdiv 1000000000)
      return .text (Errand.timeText 10000 (seconds * 1000000000) written)
    | _, _ => die (raw "bad number of arguments to " ++ raw name)

/-- Replaces matches in something that can be assigned to, or in the record. -/
def substituted (call : Caller) : Nat → Bool → Expr → Expr → Option Expr → Work Cell
  | 0, _, _, _, _ => throw (.halted .exhausted)
  | steps + 1, isGlobal, pattern, written, goal => do
    let regex ← regexIn call steps pattern
    let replacement ← textOf (← value call steps written)
    let target := goal.getD (.field (.number 0))
    let t ← textOf (← value call steps target)
    let (text, count) :=
      replaced regex { text := t.toArray } replacement isGlobal (2 * t.length + 2) 0 none
    if count ≠ 0 then store call steps target (.text text)
    return .ofNat count

/-- What a form prints of values. -/
def formatted (function : String) (written : Raw) (values : List Cell) : Work Raw := do
  let (parts, isComplete) := printed (← form) (written.length + 1) written values []
  if isComplete then return parts.reverse.flatten
  else
    dieAtRecord (raw "not enough arguments passed to " ++ raw function ++ raw "(\"" ++ written
      ++ raw "\")")

/-- Reads a line, and tells whether there is one. -/
def lineFrom (call : Caller) : Nat → Option Expr → Source → Work Cell
  | 0, _, _ => throw (.halted .exhausted)
  | steps + 1, target, source => do
    let take (found : Raw) (counted : List String) : Work Cell := do
      match target with
      | some target => store call steps target (.outside found)
      | none => setRecord found
      count counted
      return .ofNat 1
    let takeFrom (isCommand : Bool) (name : Raw) (counted : List String)
        (fetch : Work (Option Raw)) : Work Cell := do
      let key := (isCommand, name)
      let text ←
        match (← get).sources.lookup key with
        | some text => pure (some text)
        | none => fetch
      match text with
      | none => return .number (-1)
      | some text =>
        match ← firstRecord text with
        | none =>
          modify fun machine =>
            { machine with sources := (key, []) :: machine.sources.filter (·.1 ≠ key) }
          return .ofNat 0
        | some (found, rest) =>
          modify fun machine =>
            { machine with sources := (key, rest) :: machine.sources.filter (·.1 ≠ key) }
          take found counted
    match source with
    | .input =>
      match ← nextRecord 100000 with
      | none => return .ofNat 0
      | some found => take found ["NR", "FNR"]
    | .file path =>
      let name ← textOf (← value call steps path)
      takeFrom false name [] do
        match ← lift (Errand.content name) with
        | .ok text => return some text
        | .error _ => return none
    | .command command =>
      let name ← textOf (← value call steps command)
      takeFrom true name ["NR"] do return some (← outputOf call name)

/-- Carries out a statement. -/
def carryOut (call : Caller) : Nat → Statement → Work Unit
  | 0, _ => throw (.halted .exhausted)
  | steps + 1, statement => do
    let goalOf (goal : Option (Goal × Expr)) : Work (Option (Goal × Raw)) := do
      match goal with
      | none => return none
      | some (kind, e) => return some (kind, ← textOf (← value call steps e))
    match statement with
    | .nothing => pure ()
    | .evaluate e =>
      let _ ← value call steps e
    | .print items goal =>
      let text ←
        match items with
        | [] => record
        | items => do
          let separator ← globalText "OFS"
          let numbers ← globalText "OFMT"
          let texts ← items.mapM fun e => do return (← value call steps e).toText numbers
          pure (Raw.joined separator texts)
      let ending ← globalText "ORS"
      put (← goalOf goal) (text ++ ending)
    | .printFormat items goal =>
      match items with
      | [] => pure ()
      | e :: more =>
        let written ← textOf (← value call steps e)
        let values ← more.mapM (value call steps)
        let text ← formatted "printf" written values
        put (← goalOf goal) text
    | .branch condition yes no =>
      if (← value call steps condition).isTrue then carryOut call steps yes
      else carryOut call steps no
    | .loop condition body step =>
      turns (return (← value call steps condition).isTrue) (carryOut call steps body)
        (carryOut call steps step) 10000000
    | .loopAfter body condition =>
      if ← turn (carryOut call steps body) then
        turns (return (← value call steps condition).isTrue) (carryOut call steps body)
          (pure ()) 10000000
    | .forKeys name array body =>
      let found ← keys (← arrayOf array)
      turnsFor name (carryOut call steps body) found
    | .block statements => statements.forM (carryOut call steps)
    | .next => throw .next
    | .nextFile => throw .nextFile
    | .exit status =>
      match status with
      | some e =>
        let n := (Real.ofFloat (← value call steps e).toNumber).truncated
        lift (Errand.setStatus (n % 256).toNat)
      | none => pure ()
      throw .exit
    | .giveBack result =>
      match result with
      | some e => throw (.back (← value call steps e))
      | none => throw (.back .unset)
    | .leave => throw .leave
    | .again => throw .again
    | .delete array written =>
      let number ← arrayOf array
      if written.isEmpty then setMembers number []
      else
        let key ← key call steps written
        setMembers number ((← members number).filter (·.1 ≠ key))

end

/-! ## Whole programs -/

/-- The greatest depth of calls. -/
def maxDepth : Nat := 100000

/-- Whether a rule is meant for the record. -/
def isMeant (call : Caller) (number : Nat) : Pattern → Work Bool
  | .always => return true
  | .holds e => return (← value call maxDepth e).isTrue
  | .range first last => do
    let isOpen := (← get).openRanges.contains number
    if isOpen || (← value call maxDepth first).isTrue then
      let ends := (← value call maxDepth last).isTrue
      modify fun machine =>
        { machine with
          openRanges := machine.openRanges.filter (· ≠ number) ++ (if ends then [] else [number]) }
      return true
    else return false

/-- Carries out the rules for the record. -/
def applyRules (call : Caller) : Nat → List (Pattern × Statement) → Work Unit
  | _, [] => pure ()
  | number, (pattern, body) :: more => do
    if ← isMeant call number pattern then carryOut call maxDepth body
    applyRules call (number + 1) more

/-- Carries out the rules for all records, in at most so many turns. -/
def applyAll (call : Caller) : Nat → Work Unit
  | 0 => throw (.halted .exhausted)
  | turns + 1 => do
    match ← nextRecord 100000 with
    | none => pure ()
    | some found =>
      setRecord found
      count ["NR", "FNR"]
      let rules := (← get).program.rules
      tryCatch (applyRules call 0 rules) fun stop => do
        match stop with
        | .next => pure ()
        | .nextFile => modify fun machine => { machine with input := none }
        | stop => throw stop
      modify fun machine => { machine with locals := [] }
      applyAll call turns

/-- Carries out a step, and tells whether the program goes on behind it. -/
def goesOn (work : Work Unit) : Work Bool :=
  tryCatch
    (do
      work
      return true)
    fun stop => do
      match stop with
      | .halted halt => throw (.halted halt)
      | .exit => return false
      | _ => return true

/-- Carries out a program. -/
def run (call : Caller) : Work Unit := do
  let program := (← get).program
  let all (statements : List Statement) : Work Unit := statements.forM (carryOut call maxDepth)
  let begun ← goesOn (all program.beginnings)
  modify fun machine => { machine with locals := [] }
  if begun && !(program.rules.isEmpty && program.endings.isEmpty) then
    let _ ← goesOn (applyAll call 100000000)
  modify fun machine => { machine with locals := [] }
  let _ ← goesOn (all program.endings)
  closeAll call

/-- Sets up what a program knows from the beginning. -/
def prepare (operands : List Raw) (environment : List (Raw × Raw)) : Work Unit := do
  let texts : List (String × Raw) := [
    ("FS", [' ']), ("OFS", [' ']), ("ORS", ['\n']), ("RS", ['\n']), ("SUBSEP", ['\x1C']),
    ("CONVFMT", raw "%.6g"), ("OFMT", raw "%.6g"), ("FILENAME", [])]
  texts.forM fun (name, text) => setGlobal (raw name) (.text text)
  ["NR", "FNR", "RSTART"].forM fun name => setGlobal (raw name) (.ofNat 0)
  setGlobal (raw "RLENGTH") (.number (-1))
  setGlobal (raw "ARGC") (.ofNat operands.length)
  let arguments ← arrayOf (raw "ARGV")
  setMembers arguments
    (operands.mapIdx fun i operand => (Raw.ofNat i, Cell.outside operand)).reverse
  let surroundings ← arrayOf (raw "ENVIRON")
  setMembers surroundings (environment.map fun (name, value) => (name, Cell.outside value)).reverse

end Work

/-- The complaint about what is wrong with a program in a line. -/
def Flaw.message (flaw : Flaw) (line : Nat) : Raw :=
  raw "line " ++ Raw.ofNat line ++ raw ": " ++
    match flaw with
    | .runawayText text => raw "runaway string constant \"" ++ text.take 10 ++ raw " ..."
    | .runawayRegex text => raw "runaway regular expression /" ++ text.take 10 ++ raw " ..."
    | .unexpected ['\n'] => raw "syntax error at or near end of line"
    | .unexpected token => raw "syntax error at or near " ++ token
    | .tooShort => raw "missing \x7D near end of file"
    | .unknownFunction name => raw "function " ++ name ++ raw " never defined"

end Records

namespace Errand

open Records

/-- How a program about records is called. -/
def recordUsage : List String := [
  "Usage: mawk [Options] [Program] [file ...]",
  "",
  "Program:",
  "    The -f option value is the name of a file containing program text.",
  "    If no -f option is given, a \"--\" ends option processing; the following",
  "    parameters are the program text.",
  "",
  "Options:",
  "    -f program-file  Program  text is read from file instead of from the",
  "                     command-line.  Multiple -f options are accepted.",
  "    -F value         sets the field separator, FS, to value.",
  "    -v var=value     assigns value to program variable var.",
  "    --               unambiguous end of options.",
  "",
  "    Implementation-specific options are prefixed with \"-W\".  They can be",
  "    abbreviated:",
  "",
  "    -W version       show version information and exit.",
  "    -W compat        pre-POSIX 2001.",
  "    -W dump          show assembler-like listing of program and exit.",
  "    -W help          show this message and exit.",
  "    -W interactive   set unbuffered output, line-buffered input.",
  "    -W exec file     use file as program as well as last option.",
  "    -W posix         stricter POSIX checking.",
  "    -W random=number set initial random seed.",
  "    -W sprintf=number adjust size of sprintf buffer.",
  "    -W usage         show this message and exit."]

/-- The options in front of a program about records: the texts of programs, separators
and assignments, and what is left. -/
def recordOptions : Nat → List Raw → List (Char × Raw) → Errand (List (Char × Raw) × List Raw)
  | 0, rest, found => return (found.reverse, rest)
  | _, [], found => return (found.reverse, [])
  | steps + 1, argument :: rest, found => do
    match argument with
    | ['-', '-'] => return (found.reverse, rest)
    | '-' :: '-' :: name =>
      if name = raw "version" then
        say (raw "mawk 1.3.4\n")
        stop 0
      else if name = raw "help" then
        say (recordUsage.flatMap fun line => raw line ++ ['\n'])
        stop 0
      else if name = raw "interactive" ∨ name = raw "posix" then recordOptions steps rest found
      else die 2 (raw "not an option: " ++ argument)
    | ['-', 'W'] =>
      match rest with
      | value :: rest => recordOptions steps (('-' :: '-' :: value) :: rest) found
      | [] => die 2 (raw "option -W lacks argument")
    | '-' :: letter :: value =>
      if ['F', 'v', 'f'].contains letter then
        match value, rest with
        | [], value :: rest => recordOptions steps rest ((letter, value) :: found)
        | [], [] => die 2 (raw "option -" ++ [letter] ++ raw " lacks argument")
        | value, rest => recordOptions steps rest ((letter, value) :: found)
      else die 2 (raw "not an option: " ++ argument)
    | _ => return (found.reverse, argument :: rest)

/-- Carries out a program about the records of its input. -/
def processRecords (call : Caller) (arguments : List Raw) : Errand Unit := do
  let called := lastName (← get).name
  modify fun desk => { desk with name := called }
  let (found, rest) ← recordOptions (arguments.length + 1) arguments []
  let files := (found.filter (·.1 = 'f')).map (·.2)
  let (text, operands) ←
    if files = [] then
      match rest with
      | [] =>
        shout (recordUsage.flatMap fun line => raw line ++ ['\n'])
        stop 0
      | text :: operands => pure (text, operands)
    else
      let texts ← files.mapM fun path => do
        match ← content path with
        | .ok text => return text
        | .error reason =>
          die 2 (raw "cannot open \"" ++ path ++ raw "\" (" ++ raw reason.reason ++ [')'])
      pure (Raw.joined ['\n'] texts, rest)
  let program ←
    match Program.read text with
    | .ok program => pure program
    | .error (flaw, line) => die 2 (flaw.message line)
  let desk ← get
  let work : Work Unit := do
    Work.prepare (called :: operands) desk.process.environment
    found.forM fun (letter, value) => do
      if letter = 'F' then Work.setGlobal (raw "FS") (.text (Work.unescaped value))
      else if letter = 'v' then
        if !(← Work.assigned value) then
          Work.die (raw "improper assignment: -v " ++ value)
    Work.run call
  match work { desk, program } with
  | .ok _ machine => set machine.desk
  | .error stop machine =>
    set machine.desk
    match stop with
    | .halted halt => throw halt
    | _ => pure ()

end Errand

end Rehearsal

end InstallPlan

import InstallPlan.Rehearsal.Editor.Reading
import InstallPlan.Rehearsal.Errand.Calling

/-!
# Rehearsal — The stream editor at work

Carries out a script of the stream editor for every line of its input. A line is
kept without its break, together with whether it had one, so that a last line
without a break is printed as it came.
-/

namespace InstallPlan

namespace Rehearsal

namespace Editor

/-- A line, and whether a break follows it. -/
structure Line where
  text : Raw := []
  isEnded : Bool := true

/-- How far a range of lines has come. -/
inductive Course where
  | outside
  | inside
  /-- Inside up to a line of a known number. -/
  | upTo (number : Nat)

/-- What is printed when the cycle ends. -/
inductive Later where
  | text (text : Raw)
  | file (path : Raw)
  | line (text : Raw)

/-- What the editor is asked for apart from its script. -/
structure Manner where
  isQuiet : Bool := false
  /-- The character that ends a line. -/
  mark : Char := '\n'
  /-- The width of lines that are shown letter by letter. -/
  width : Nat := 70
  /-- Whether the output takes the place of the input. -/
  inPlace : Bool := false

/-- The editor at work. -/
structure Desk where
  script : Script
  manner : Manner
  /-- The lines that are still to be read, each with the name of its file. -/
  input : List (Raw × Line) := []
  name : Raw := ['-']
  line : Line := {}
  held : Line := {}
  number : Nat := 0
  /-- Whether something was replaced since the line was read. -/
  hasReplaced : Bool := false
  later : List Later := []
  /-- The ranges of the commands, by the numbers of these. -/
  courses : List (Nat × Course) := []
  /-- The expression that was used last. -/
  lastUsed : Option Matcher := none
  /-- The streams of the files that are written. -/
  outputs : List (Raw × Nat) := []
  /-- The outputs that end in a line without a break. -/
  unended : List Raw := []
  /-- What is left of the files that are read line by line. -/
  sources : List (Raw × List Line) := []
  /-- The output that takes the place of the input, the last part first. -/
  pages : List Raw := []

/-- A step of the editor. -/
abbrev Work := StateT Desk Errand

/-- How the script ends for a line. -/
inductive Outcome where
  | done
  /-- The script begins anew without another line. -/
  | again
  | finished (status : Nat)

namespace Work

/-- Carries out a step of the program that is no step of the editor. -/
def lift {α : Type} (errand : Errand α) : Work α := fun desk => do return (← errand, desk)

/-! ## Output -/

/-- Writes to an output as it is: to the main one, which has no name, or to a file. -/
def put (output text : Raw) : Work Unit := do
  let desk ← get
  if output = [] then
    if desk.manner.inPlace then set { desk with pages := text :: desk.pages }
    else lift (Errand.say text)
  else if output = raw "/dev/stdout" then lift (Errand.say text)
  else
    match desk.outputs.find? (·.1 = output) with
    | none => pure ()
    | some (_, stream) =>
      let process ← lift Errand.process
      match process.system.write stream text with
      | .ok system => lift (Errand.setProcess { process with system })
      | .error _ => pure ()

/-- Ends the last line of an output that has no break yet. -/
def endLine (output : Raw) : Work Unit := do
  let desk ← get
  if desk.unended.contains output then
    set { desk with unended := desk.unended.filter (· ≠ output) }
    put output [desk.manner.mark]

/-- Prints a text that has its breaks. -/
def putText (output text : Raw) : Work Unit := do
  endLine output
  put output text

/-- Prints a line. -/
def putLine (output : Raw) (line : Line) : Work Unit := do
  endLine output
  let desk ← get
  if line.isEnded then put output (line.text ++ [desk.manner.mark])
  else
    put output line.text
    modify fun desk => { desk with unended := output :: desk.unended }

/-- Prints what was kept for the end of the cycle. -/
def putLater : Work Unit := do
  let later := (← get).later
  modify fun desk => { desk with later := [] }
  later.forM fun item => do
    match item with
    | .text text => putText [] text
    | .line text => putLine [] { text }
    | .file path =>
      endLine []
      match ← lift (Errand.content path) with
      | .ok text => put [] text
      | .error _ => pure ()

/-! ## Input -/

/-- Whether there is no other line. -/
def atEnd : Work Bool := return (← get).input.isEmpty

/-- Takes up the next line, if there is one. -/
def takeLine : Work (Option Line) := do
  putLater
  let desk ← get
  match desk.input with
  | [] => return none
  | (name, line) :: input =>
    set { desk with name, input, number := desk.number + 1 }
    return some line

/-! ## Selections -/

/-- The expression that is meant. -/
def matcherOf (matcher : Option Matcher) : Work Matcher := do
  match matcher with
  | some m =>
    modify fun desk => { desk with lastUsed := some m }
    return m
  | none =>
    match (← get).lastUsed with
    | some m => return m
    | none =>
      lift (Errand.die 1 (raw "-e expression #1, char 0: no previous regular expression"))

/-- A text as it is searched for an expression. -/
def subjectOf (matcher : Matcher) (text : Raw) : Regex.Subject :=
  { text := text.toArray, folds := matcher.folds, byLine := matcher.byLine }

/-- Whether an address means the line. -/
def means : Address → Work Bool
  | .line number => return (← get).number = number
  | .every first step => do
    let number := (← get).number
    return first ≤ number && (number - first) % step = 0
  | .last => atEnd
  | .matching matcher => do
    let m ← matcherOf matcher
    return m.regex.occurs (subjectOf m (← get).line.text)

/-- Sets how far the range of a command has come. -/
def setCourse (command : Nat) (course : Course) : Work Unit :=
  modify fun desk =>
    { desk with courses := (command, course) :: desk.courses.filter (·.1 ≠ command) }

/-- Whether a range that is open means the line, too. -/
def goesOn (command : Nat) (course : Course) : RangeEnd → Work Bool
  | .here (.matching matcher) => do
    if ← means (.matching matcher) then setCourse command .outside
    return true
  | .here .last => do
    if ← atEnd then setCourse command .outside
    return true
  | .here (.every first step) => do
    if ← means (.every first step) then setCourse command .outside
    return true
  | _ => do
    match course with
    | .upTo last =>
      let number := (← get).number
      if last ≤ number then setCourse command .outside
      return number ≤ last
    | _ => return true

/-- Whether a range begins at the line. -/
def begins (command : Nat) (first : Address) (second : RangeEnd) : Work Bool := do
  if !(← means first) then return false
  else
    let number := (← get).number
    let last? : Option Nat :=
      match second with
      | .here (.line last) => some last
      | .here _ => none
      | .later count => some (number + count)
      | .multiple 0 => some number
      | .multiple factor => some ((number / factor + 1) * factor)
    match last? with
    | none => setCourse command .inside
    | some last => if number < last then setCourse command (.upTo last)
    return true

/-- Whether a command is meant for the line. -/
def isMeant (command : Nat) (selection : Selection) : Work Bool := do
  let found ←
    match selection.first, selection.second with
    | none, _ => pure true
    | some first, none => means first
    | some first, some second =>
      let desk ← get
      let standard : Course :=
        match first with
        | .line 0 => if desk.number = 1 then .inside else .outside
        | _ => .outside
      match (desk.courses.lookup command).getD standard with
      | .outside => begins command first second
      | course => goesOn command course second
  return found != selection.inverted

/-! ## Replacements -/

/-- How the letters that come next are changed: all of them, and the first one. -/
structure Letters where
  all : Casing := .asIs
  first : Option Casing := none

/-- A text with its letters changed. -/
def Letters.apply (letters : Letters) (text : Raw) : Raw × Letters :=
  let changed :=
    match letters.all with
    | .upper => text.map Char.toUpper
    | .lower => text.map Char.toLower
    | _ => text
  match changed, letters.first with
  | c :: rest, some .nextUpper => (c.toUpper :: rest, { letters with first := none })
  | c :: rest, some .nextLower => (c.toLower :: rest, { letters with first := none })
  | changed, _ => (changed, letters)

/-- What a replacement puts in the place of a match. -/
def replacement (text : Array Char) (found : Regex.Found) (parts : List Part) : Raw :=
  (parts.foldl
    (fun ((done, letters) : List Raw × Letters) part =>
      match part with
      | .casing .nextUpper => (done, { letters with first := some .nextUpper })
      | .casing .nextLower => (done, { letters with first := some .nextLower })
      | .casing all => (done, { all })
      | .text text =>
        let (text, letters) := letters.apply text
        (text :: done, letters)
      | .group number =>
        match found.group? number with
        | none => (done, letters)
        | some (first, last) =>
          let (text, letters) := letters.apply (text.extract first last).toList
          (text :: done, letters))
    ([], {})).1.reverse.flatten

/-- A text with its matches replaced, and whether there are any; in at most so many
steps. The count is that of the matches so far, and a match without characters does
not count right behind another one. -/
def replaced (m : Matcher) (subject : Regex.Subject) (s : Substitution) :
    Nat → Nat → Nat → Option Nat → Raw × Bool
  | 0, p, _, _ => ((subject.text.extract p subject.text.size).toList, false)
  | steps + 1, p, count, behind =>
    let rest (p : Nat) : Raw := (subject.text.extract p subject.text.size).toList
    if subject.text.size < p then ([], false)
    else
      match m.regex.search subject p with
      | none => (rest p, false)
      | some found =>
        let lead := (subject.text.extract p found.first).toList
        let isEmpty := found.first = found.last
        let onward := if isEmpty then found.last + 1 else found.last
        let skipped : Raw :=
          if isEmpty then (subject.text.extract found.last (found.last + 1)).toList else []
        if isEmpty ∧ behind = some found.first then
          let (more, any) := replaced m subject s steps onward count none
          (lead ++ skipped ++ more, any)
        else if count + 1 < s.number then
          let same := (subject.text.extract found.first found.last).toList
          let (more, any) := replaced m subject s steps onward (count + 1) (some found.last)
          (lead ++ same ++ skipped ++ more, any)
        else
          let text := replacement subject.text found s.parts
          if s.isGlobal then
            let (more, _) := replaced m subject s steps onward (count + 1) (some found.last)
            (lead ++ text ++ skipped ++ more, true)
          else (lead ++ text ++ rest found.last, true)

/-! ## Lines letter by letter -/

/-- How a character is shown. -/
def shown (c : Char) : Raw :=
  match c with
  | '\\' => ['\\', '\\']
  | '\x07' => ['\\', 'a']
  | '\x08' => ['\\', 'b']
  | '\x0C' => ['\\', 'f']
  | '\n' => ['\\', 'n']
  | '\r' => ['\\', 'r']
  | '\t' => ['\\', 't']
  | '\x0B' => ['\\', 'v']
  | c =>
    if ' ' ≤ c ∧ c ≤ '~' then [c]
    else
      let digits := Nat.toDigits 8 c.toNat
      '\\' :: (List.replicate (3 - digits.length) '0' ++ digits)

/-- A line letter by letter, on lines of at most so many characters. -/
def listed (width : Nat) (text : Raw) : Raw :=
  let (done, _) := (text.map shown).foldl
    (fun ((done, used) : List Raw × Nat) (item : Raw) =>
      if width ≠ 0 ∧ width - 1 < used + item.length then
        (item :: ['\\', '\n'] :: done, item.length)
      else (item :: done, used + item.length))
    ([], 0)
  done.reverse.flatten ++ ['$', '\n']

/-! ## Commands -/

/-- Calls a command of the shell for what it prints. -/
def outputOfCommand (call : Caller) (command : Raw) : Work Raw := do
  let before ← lift Errand.process
  let (stream, process) := before.adding { origin := .pipe [], reads := false }
  lift (Errand.setProcess (process.lead 1 (some stream)))
  let _ ← lift (call [raw "/bin/sh", raw "-c", command])
  let after ← lift Errand.process
  lift (Errand.setProcess { after with channels := before.channels })
  match after.system.origin? stream with
  | some (.pipe text) => return text
  | _ => return []

/-- Replaces what an expression matches in the line. -/
def substitute (call : Caller) (s : Substitution) : Work Unit := do
  let m ← matcherOf s.matcher
  let desk ← get
  let subject := subjectOf m desk.line.text
  let (text, any) := replaced m subject s (2 * subject.text.size + 2) 0 0 none
  if any then
    set { desk with line := { desk.line with text }, hasReplaced := true }
    if s.evaluates then
      let output ← outputOfCommand call text
      let text := if output.getLast? = some '\n' then output.dropLast else output
      modify fun desk => { desk with line := { desk.line with text } }
    if s.prints then putLine [] (← get).line
    match s.writesTo with
    | some path => putLine path (← get).line
    | none => pure ()

/-- The first line of a text, and what follows its break, if there is one. -/
def firstLine (mark : Char) (text : Raw) : Raw × Option Raw :=
  match text.dropWhile (· ≠ mark) with
  | [] => (text, none)
  | _ :: rest => (text.takeWhile (· ≠ mark), some rest)

/-- The lines of a text. -/
def linesOf (mark : Char) (text : Raw) : List Line :=
  let pieces := Raw.split mark text
  let ended := pieces.dropLast.map fun text => ({ text } : Line)
  match pieces.getLast? with
  | some (c :: rest) => ended ++ [{ text := c :: rest, isEnded := false }]
  | _ => ended

/-- The next line of a file that is read line by line. -/
def lineOf (path : Raw) : Work (Option Raw) := do
  let desk ← get
  let lines ←
    match desk.sources.lookup path with
    | some lines => pure lines
    | none =>
      match ← lift (Errand.content path) with
      | .ok text => pure (linesOf desk.manner.mark text)
      | .error _ => pure []
  modify fun desk =>
    { desk with sources := (path, lines.drop 1) :: desk.sources.filter (·.1 ≠ path) }
  return lines.head?.map (·.text)

/-- Prints the line, if that is not left to the script. -/
def printByItself : Work Unit := do
  let desk ← get
  if !desk.manner.isQuiet && !desk.script.isQuiet then putLine [] desk.line

/-- The first line of what the editor has before it. -/
def firstOf (desk : Desk) : Line :=
  match firstLine desk.manner.mark desk.line.text with
  | (text, none) => { desk.line with text }
  | (text, some _) => { text }

/-- A line with another one behind it, which tells whether a break follows. -/
def added (mark : Char) (line other : Line) : Line :=
  { other with text := line.text ++ mark :: other.text }

/-- Keeps something for the end of the cycle. -/
def keep (item : Later) : Work Unit :=
  modify fun desk => { desk with later := desk.later ++ [item] }

/-- Where the script goes on behind a command. -/
inductive Step where
  | onward
  | goto (command : Nat)
  | ending (outcome : Outcome)

/-- Carries out what a command does. -/
def carryOut (call : Caller) (number : Nat) (action : Action) : Work Step := do
  let desk ← get
  let ended : Work Step := return .ending .done
  let changeLine (f : Raw → Raw) : Work Step := do
    modify fun desk => { desk with line := { desk.line with text := f desk.line.text } }
    return .onward
  let keeping (item : Later) : Work Step := do
    keep item
    return .onward
  let jumpTo (label : Raw) : Step :=
    if label = [] then .goto desk.script.commands.size
    else .goto ((desk.script.labels.lookup label).getD desk.script.commands.size)
  match action with
  | .nothing | .block _ => return .onward
  | .jump .always label => return jumpTo label
  | .jump .replaced label =>
    set { desk with hasReplaced := false }
    return if desk.hasReplaced then jumpTo label else .onward
  | .jump .notReplaced label =>
    set { desk with hasReplaced := false }
    return if desk.hasReplaced then .onward else jumpTo label
  | .append text => keeping (.text text)
  | .insert text =>
    putText [] text
    return .onward
  | .change text =>
    let isOpen :=
      match desk.courses.lookup number with
      | none | some .outside => false
      | some _ => true
    if !isOpen then putText [] text
    ended
  | .delete => ended
  | .deleteLine =>
    match firstLine desk.manner.mark desk.line.text with
    | (_, none) => ended
    | (_, some rest) =>
      set { desk with line := { desk.line with text := rest } }
      return .ending .again
  | .run command =>
    if command = [] then
      let output ← outputOfCommand call desk.line.text
      let text := if output.getLast? = some '\n' then output.dropLast else output
      changeLine fun _ => text
    else
      let output ← outputOfCommand call command
      putText [] output
      return .onward
  | .sayName =>
    putLine [] { text := desk.name }
    return .onward
  | .sayNumber =>
    putText [] (Raw.ofNat desk.number ++ ['\n'])
    return .onward
  | .takeHeld adds =>
    let line := if adds then added desk.manner.mark desk.line desk.held else desk.held
    set { desk with line }
    return .onward
  | .hold adds =>
    let held := if adds then added desk.manner.mark desk.held desk.line else desk.line
    set { desk with held }
    return .onward
  | .exchange =>
    set { desk with line := desk.held, held := desk.line }
    return .onward
  | .list width =>
    putText [] (listed (width.getD desk.manner.width) desk.line.text)
    return .onward
  | .next =>
    printByItself
    match ← takeLine with
    | some line =>
      modify fun desk => { desk with line }
      return .onward
    | none => ended
  | .nextAdded =>
    if ← atEnd then
      printByItself
      ended
    else
      match ← takeLine with
      | some line =>
        modify fun desk => { desk with line := added desk.manner.mark desk.line line }
        return .onward
      | none => ended
  | .print =>
    putLine [] desk.line
    return .onward
  | .printLine =>
    putLine [] (firstOf desk)
    return .onward
  | .quit quietly status =>
    if !quietly then
      printByItself
      putLater
    return .ending (.finished status)
  | .readFile path => keeping (.file path)
  | .readLine path =>
    match ← lineOf path with
    | some text => keeping (.line text)
    | none => return .onward
  | .substitute s =>
    substitute call s
    return .onward
  | .translate pairs =>
    changeLine fun text => text.map fun c => (pairs.lookup c).getD c
  | .write path =>
    putLine path desk.line
    return .onward
  | .writeLine path =>
    putLine path (firstOf desk)
    return .onward
  | .clear => changeLine fun _ => []

/-- Carries out the script from a command on, in at most so many steps. -/
def runFrom (call : Caller) : Nat → Nat → Work Outcome
  | 0, _ => lift (throw .exhausted)
  | steps + 1, number => do
    match (← get).script.commands[number]? with
    | none =>
      printByItself
      return .done
    | some command =>
      let isMeant ← isMeant number command.selection
      match command.action, isMeant with
      | .block behind, false => runFrom call steps behind
      | _, false => runFrom call steps (number + 1)
      | action, true =>
        match ← carryOut call number action with
        | .onward => runFrom call steps (number + 1)
        | .goto next => runFrom call steps next
        | .ending outcome => return outcome

/-- The greatest number of steps. -/
def maxSteps : Nat := 10000000

/-- Carries out the script for all lines of the input, in at most so many cycles, and
gives the status at which it ends, if it ends itself. -/
def cycles (call : Caller) : Nat → Bool → Work (Option Nat)
  | 0, _ => lift (throw .exhausted)
  | steps + 1, reads => do
    if reads then
      match ← takeLine with
      | none => return none
      | some line => modify fun desk => { desk with line, hasReplaced := false }
    match ← runFrom call maxSteps 0 with
    | .done => cycles call steps true
    | .again =>
      putLater
      cycles call steps false
    | .finished status =>
      putLater
      return some status

/-- Opens the files that a script writes. -/
def openOutputs (paths : List Raw) : Work Unit :=
  paths.forM fun path => do
    if path ≠ raw "/dev/stdout" ∧ !(← get).outputs.any (·.1 = path) then
      match (← lift Errand.process).openPath path .writing with
      | .ok (stream, process) =>
        lift (Errand.setProcess process)
        modify fun desk => { desk with outputs := (path, stream) :: desk.outputs }
      | .error reason =>
        lift (Errand.die 4 (raw "couldn't open file " ++ Errand.about path reason))

/-- Works on some lines; the numbers of lines and the ranges begin anew. -/
def workOn (call : Caller) (input : List (Raw × Line)) : Work (Option Nat) := do
  modify fun desk => { desk with input, number := 0, courses := [] }
  let status ← cycles call maxSteps true
  putLater
  return status

/-- Works on every file by itself, and puts what is printed in its place if that is
asked for. -/
def workApart (call : Caller) (backup : Option Raw) : List (Raw × Raw) → Work (Option Nat)
  | [] => return none
  | (path, text) :: more => do
    let desk ← get
    let lines := (linesOf desk.manner.mark text).map fun line => (path, line)
    modify fun desk => { desk with pages := [], unended := desk.unended.filter (· ≠ []) }
    let status ← workOn call lines
    if desk.manner.inPlace then
      let pages := (← get).pages.reverse.flatten
      let process ← lift Errand.process
      match process.tree.spot process.here path true with
      | .ok ⟨directory, name, some number, _⟩ =>
        let mode := ((process.tree.node? number).map (·.mode)).getD 0o644
        let tree :=
          match backup with
          | some ending =>
            let kept := if ending.contains '*' then
                ending.flatMap fun c => if c = '*' then name else [c]
              else name ++ ending
            process.tree.enter directory kept number
          | none => process.tree
        let (_, tree) := tree.create directory name
          { entry := .file pages, mode, stamp := process.system.clock }
        lift (Errand.setProcess (process.withTree tree))
      | _ => pure ()
    match status with
    | some n => return some n
    | none => workApart call backup more

end Work

end Editor

namespace Errand

open Editor

/-- The complaint about a script that was put together from pieces: where in which
piece the flaw is. A piece is a part of the command line, or a file. -/
def scriptComplaint (flaw : Flaw) : Nat → Nat → List (Option Raw × Raw) → Raw
  | count, index, (file, text) :: more =>
    if count ≤ text.length ∨ more = [] then
      match file with
      | some name =>
        let line := ((text.take (count - 1)).filter (· = '\n')).length + 1
        raw "file " ++ name ++ raw " line " ++ Raw.ofNat line ++ raw ": " ++ flaw.message
      | none =>
        raw "-e expression #" ++ Raw.ofNat index ++ raw ", char " ++ Raw.ofNat count ++ raw ": "
          ++ flaw.message
    else
      scriptComplaint flaw (count - text.length - 1) (if file.isSome then index else index + 1) more
  | _, _, [] => flaw.message

/-- Edits its input line by line. -/
def edit (call : Caller) (arguments : List Raw) : Errand Unit := do
  let given ←
    match Options.read
      { letters := "bsnrzuEe:f:l:i::V:hD",
        words := [("regexp-extended", .none, "E"), ("in-place", .attached, "i"),
          ("line-length", .value, "l"), ("null-data", .none, "z"), ("zero-terminated", .none, "z"),
          ("quiet", .none, "n"), ("silent", .none, "n"), ("posix", .none, "p"),
          ("separate", .none, "s"), ("unbuffered", .none, "u"), ("expression", .value, "e"),
          ("file", .value, "f"), ("debug", .none, "D"), ("sandbox", .none, "S"),
          ("follow-symlinks", .none, "F"), ("binary", .none, "b")] } arguments with
    | .ok given => if given.has "help" || given.has "version" then stop 0 else pure given
    | .error message =>
      warn message
      shout (raw "Usage: " ++ (← get).name
        ++ raw " [OPTION]... \x7Bscript-only-if-no-other-script\x7D [input-file]...\n\n")
      stop 1
  let written := given.options.filter fun o => o.1 = "e" || o.1 = "f"
  let (pieces, operands) ←
    if written = [] then
      match given.operands with
      | [] =>
        shout (raw "Usage: " ++ (← get).name
          ++ raw " [OPTION]... \x7Bscript-only-if-no-other-script\x7D [input-file]...\n\n")
        stop 1
      | script :: operands => pure ([((none : Option Raw), script)], operands)
    else
      let pieces ← written.mapM fun (option, value) => do
        if option = "e" then return ((none : Option Raw), value)
        else
          match ← content value with
          | .ok text =>
            return (some value, if text.getLast? = some '\n' then text.dropLast else text)
          | .error reason => die 4 (raw "couldn't open file " ++ about value reason)
      pure (pieces, given.operands)
  let extended := given.has "E" || given.has "r"
  let script ←
    match Editor.read extended (Raw.joined ['\n'] (pieces.map (·.2))) with
    | .ok script => pure script
    | .error (flaw, count) => die 1 (scriptComplaint flaw count 1 pieces)
  match script.missingLabel? with
  | some label => die 4 (raw "can't find label for jump to \x60" ++ label ++ ['\x27'])
  | none => pure ()
  let inPlace := given.has "i"
  if inPlace ∧ operands = [] then die 4 (raw "no input files")
  let paths := if operands = [] then [['-']] else operands
  let found ← paths.mapM fun path => do
    let process ← process
    if inPlace ∧ path ≠ ['-'] ∧ process.tree.leadsToDirectory process.here path then
      faultWith 4 (raw "couldn't edit " ++ path ++ raw ": not a regular file")
      return []
    else
      match ← content path with
      | .ok text => return [(path, text)]
      | .error .isADirectory =>
        faultWith 2 (raw "read error on " ++ about path .isADirectory)
        return []
      | .error reason =>
        faultWith 2 (raw "can't read " ++ about path reason)
        return []
  let files := found.flatten
  let manner : Manner :=
    { isQuiet := given.has "n"
      mark := if given.has "z" then '\x00' else '\n'
      width := ((given.last? "l").bind decimal?).getD 70
      inPlace }
  let desk : Editor.Desk := { script, manner }
  let work : Work (Option Nat) := do
    Work.openOutputs script.outputs
    if inPlace ∨ given.has "s" then
      Work.workApart call ((given.last? "i").filter (· ≠ [])) files
    else
      Work.workOn call (files.flatMap fun (path, text) =>
        (Work.linesOf manner.mark text).map fun line => (path, line))
  let (status, _) ← work desk
  match status with
  | some n => if n ≠ 0 then setStatus (n % 256)
  | none => pure ()

end Errand

end Rehearsal

end InstallPlan

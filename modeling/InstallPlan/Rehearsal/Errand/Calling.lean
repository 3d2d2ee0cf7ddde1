import InstallPlan.Rehearsal.Errand.Calendar
import InstallPlan.Rehearsal.Signal

/-!
# Rehearsal — Errands that call others

The programs that carry out another one: with another environment, with arguments
out of their input, for a limited time, or under other circumstances.
-/

namespace InstallPlan

namespace Rehearsal

namespace Errand

/-! ## Calls in the place of the program -/

/-- The status that tells that a program could not be started. -/
def startStatus (reason : IoFault) : Nat := if reason = .notFound then 127 else 126

/-- Carries out another program in the place of this one, or says why not. -/
def becomeOr (call : Caller) (refuse : IoFault → Errand Unit) (words : List Raw) :
    Errand Unit := do
  match ← call words with
  | .ok halt => throw halt
  | .error reason =>
    refuse reason
    stop (startStatus reason)

/-- Carries out another program in the place of this one; a complaint begins with
what is said of its name. -/
def become (call : Caller) (complaint : Raw → Raw) (words : List Raw) : Errand Unit :=
  becomeOr call (fun reason => warn (about (complaint (words.headD [])) reason)) words

/-- A complaint that a command could not be carried out. -/
def failedToRun (name : Raw) : Raw := raw "failed to run command " ++ quote name

/-- A name and a value, where there is an equals sign behind a name. -/
def assignment? (word : Raw) : Option (Raw × Raw) :=
  match word.dropWhile (· ≠ '=') with
  | [] => none
  | _ :: value => some (word.takeWhile (· ≠ '='), value)

/-- An environment with a variable set. -/
def withVariable (environment : List (Raw × Raw)) (name value : Raw) : List (Raw × Raw) :=
  if environment.any (·.1 = name) then
    environment.map fun v => if v.1 = name then (name, value) else v
  else environment ++ [(name, value)]

/-- The words of a text, which blanks divide; quotes keep them together. The state
is the quote around the text, and the word that was begun. -/
def wordsOf : Option Char → Option Raw → Raw → List Raw
  | _, current, [] => current.toList
  | none, current, '\\' :: c :: more => wordsOf none (some (current.getD [] ++ [c])) more
  | some quote, current, c :: more =>
    if c = quote then wordsOf none current more
    else wordsOf (some quote) (some (current.getD [] ++ [c])) more
  | none, current, c :: more =>
    if isWhite c then current.toList ++ wordsOf none none more
    else if c = '"' ∨ c = '\x27' then wordsOf (some c) (some (current.getD [])) more
    else wordsOf none (some (current.getD [] ++ [c])) more

/-- The arguments with the ones of the option that holds several in their places. -/
def splitArguments (arguments : List Raw) : List Raw :=
  match arguments with
  | ['-', 'S'] :: text :: rest => wordsOf none none text ++ rest
  | ('-' :: 'S' :: text) :: rest => wordsOf none none text ++ rest
  | ('-' :: 'v' :: 'S' :: text) :: rest => wordsOf none none text ++ rest
  | first :: rest =>
    if (raw "--split-string=").isPrefixOf first then
      wordsOf none none (first.drop 15) ++ rest
    else arguments
  | [] => []

/-- Carries out a program with another environment, or prints that. -/
def environment (call : Caller) (arguments : List Raw) : Errand Unit := do
  let given ← givenOr 125
    { letters := "iC:u:v0", inOrder := true,
      words := [("ignore-environment", .none, "i"), ("null", .none, "0"),
        ("unset", .value, "u"), ("chdir", .value, "C"), ("debug", .none, "v")] }
    (splitArguments arguments)
  let isEmpty := given.has "i" || given.operands.head? = some ['-']
  let operands := if given.operands.head? = some ['-'] then given.operands.drop 1
    else given.operands
  let process ← process
  match (given.all "u").find? fun name => name = [] || name.contains '=' with
  | some name => die 125 (raw "cannot unset " ++ quote name ++ raw ": Invalid argument")
  | none => pure ()
  let kept := if isEmpty then [] else
    process.environment.filter fun v => !(given.all "u").contains v.1
  let settings := operands.takeWhile fun word => (assignment? word).isSome
  let words := operands.drop settings.length
  let environment := (settings.filterMap assignment?).foldl
    (fun environment (name, value) => withVariable environment name value) kept
  if given.has "0" ∧ words ≠ [] then
    misuse 125 (raw "cannot specify --null (-0) with command")
  if given.has "C" ∧ words = [] then
    misuse 125 (raw "must specify command with --chdir (-C)")
  setProcess { process with environment }
  match given.last? "C" with
  | none => pure ()
  | some path =>
    match process.tree.find process.here path with
    | .ok here =>
      if process.tree.isDirectory here then setProcess { process with environment, here }
      else die 125 (raw "cannot change directory to " ++ quote path ++ raw ": Not a directory")
    | .error reason =>
      die 125 (raw "cannot change directory to " ++ about (quote path) reason)
  if words = [] then
    sayAll (if given.has "0" then '\x00' else '\n')
      (environment.map fun (name, value) => name ++ '=' :: value)
  else
    let name := words.headD []
    becomeOr call
      (fun reason => do
        warn (about (quote name) reason)
        if reason = .notFound ∧ name.contains ' ' then
          warn (raw "use -[v]S to pass options in shebang lines"))
      words

/-- Carries out a program that hangs up do not reach. -/
def immune (call : Caller) (arguments : List Raw) : Errand Unit := do
  let given ← givenOr 125 { letters := "", inOrder := true } arguments
  if given.operands = [] then misuse 125 (raw "missing operand")
  let process ← process
  setProcess { process with deaf := 1 :: process.deaf }
  become call failedToRun given.operands

/-- Carries out a program with another priority, of which there is only one. -/
def nice (call : Caller) (arguments : List Raw) : Errand Unit := do
  let arguments :=
    match arguments with
    | ('-' :: c :: more) :: rest =>
      if c.isDigit ∨ (c = '-' ∧ (more.headD 'x').isDigit) then
        raw "-n" :: (c :: more) :: rest
      else arguments
    | _ => arguments
  let given ← givenOr 125
    { letters := "n:", inOrder := true, words := [("adjustment", .value, "n")] } arguments
  match given.last? "n" with
  | some text =>
    let digits := match text with
      | '-' :: more | '+' :: more => more
      | _ => text
    if (decimal? digits).isNone then die 125 (raw "invalid adjustment " ++ quote text)
    if given.operands = [] then misuse 125 (raw "a command must be given with an adjustment")
  | none => pure ()
  if given.operands = [] then sayLine ['0']
  else become call quote given.operands

/-- Carries out a program in a session of its own. -/
def session (call : Caller) (arguments : List Raw) : Errand Unit := do
  let given ← given
    { letters := "cfw", inOrder := true,
      words := [("ctty", .none, "c"), ("fork", .none, "f"), ("wait", .none, "w")] } arguments
  if given.operands = [] then misuse 1 (raw "no command specified")
  become call (fun name => raw "failed to execute " ++ name) given.operands

/-- Carries out a program whose streams are held back otherwise. -/
def buffered (call : Caller) (arguments : List Raw) : Errand Unit := do
  let given ← givenOr 125
    { letters := "i:o:e:", inOrder := true,
      words := [("input", .value, "i"), ("output", .value, "o"), ("error", .value, "e")] }
    arguments
  if given.operands = [] then misuse 125 (raw "missing operand")
  if given.options = [] then misuse 125 (raw "you must specify a buffering mode option")
  become call failedToRun given.operands

/-- Carries out a program while a file is locked. -/
def locked (call : Caller) (arguments : List Raw) : Errand Unit := do
  let given ← givenOr 64
    { letters := "sexnuw:oE:Fvc:", inOrder := true,
      words := [("shared", .none, "s"), ("exclusive", .none, "x"), ("unlock", .none, "u"),
        ("nonblocking", .none, "n"), ("nb", .none, "n"), ("nonblock", .none, "n"),
        ("timeout", .value, "w"), ("wait", .value, "w"), ("close", .none, "o"),
        ("conflict-exit-code", .value, "E"), ("no-fork", .none, "F"), ("verbose", .none, "v"),
        ("command", .value, "c")] }
    arguments
  match given.operands with
  | [] => misuse 64 (raw "not enough arguments")
  | [channel] =>
    match decimal? channel with
    | none => die 64 (raw "bad file descriptor: " ++ quote channel)
    | some n =>
      if ((← process).stream? n).isNone then
        die 65 (channel ++ raw ": Bad file descriptor")
  | path :: words =>
    let process ← process
    match process.openPath path { reads := true, creates := true } with
    | .error reason =>
      if reason ≠ .isADirectory then
        die 66 (raw "cannot open lock file " ++ path ++ raw ": " ++ raw reason.reason)
    | .ok (_, process) => setProcess process
    let words :=
      match words with
      | ['-', 'c'] :: script => raw "/bin/sh" :: raw "-c" :: script
      | _ => words
    match ← call words with
    | .ok halt => throw (.ended halt.status)
    | .error reason =>
      die 69 (raw "failed to execute " ++ about (words.headD []) reason)

/-- Carries out a program until its time is over. -/
def limited (call : Caller) (arguments : List Raw) : Errand Unit := do
  let given ← givenOr 125
    { letters := "fk:ps:v", inOrder := true,
      words := [("foreground", .none, "f"), ("kill-after", .value, "k"),
        ("preserve-status", .none, "p"), ("signal", .value, "s"), ("verbose", .none, "v")] }
    arguments
  let interval (text : Raw) : Errand Int := do
    match duration? text with
    | some time => return time
    | none => misuse 125 (raw "invalid time interval " ++ quote text)
  match given.last? "k" with
  | some text =>
    let _ ← interval text
  | none => pure ()
  let signal ←
    match given.last? "s" with
    | none => pure Signal.term
    | some text =>
      match Signal.ofText? true text with
      | some n => pure n
      | none => misuse 125 (quote text ++ raw ": invalid signal")
  match given.operands with
  | [] | [_] => misuse 125 (raw "missing operand")
  | text :: words =>
    let time ← interval text
    if time = 0 then become call failedToRun words
    let process ← process
    let last := process.system.clock + time
    let outer := process.deadline
    let isOuter := outer.any fun (before, _) => before ≤ last
    setProcess
      { process with deadline := if isOuter then outer else some (last, signal) }
    let result ←
      tryCatch (call words) fun halt => do
        if halt = .exhausted then
          let process ← Errand.process
          match process.deadline with
          | some (time, signal) =>
            setProcess { process with system := { process.system with clock := time } }
            return .ok (.killed signal)
          | none => throw halt
        else throw halt
    let after ← Errand.process
    setProcess { after with deadline := outer }
    match ({ after with deadline := outer } : Process).overdue?, result with
    | some signal, _ => throw (.killed signal)
    | none, .error reason =>
      die (startStatus reason) (about (failedToRun (words.headD [])) reason)
    | none, .ok halt =>
      if halt = .killed signal ∧ last ≤ after.system.clock then
        if signal = Signal.kill then throw (.killed signal)
        else if given.has "p" then stop halt.status
        else stop 124
      else throw halt

end Errand

/-! ## Arguments out of the input -/

namespace Gathering

/-- Where a character of the input stands. -/
inductive Place where
  /-- In front of a word. -/
  | gap
  | word
  | quote (mark : Char)
  /-- Behind a backslash. -/
  | escaped

/-- A line of the input: its words, and whether another line does not belong to it. -/
structure Line where
  words : List Raw
  isClosed : Bool := true

/-- The lines of an input, and the quote that is left open. -/
structure Input where
  lines : List Line := []
  openQuote : Option Char := none

/-- The input with a line in front. -/
def Input.cons (line : Line) (input : Input) : Input := { input with lines := line :: input.lines }

/-- What an input consists of. -/
structure Form where
  /-- Whether blanks divide words; if not, every line is a word. -/
  divides : Bool
  /-- The word that stands for the end of the input. -/
  last? : Option Raw

/-- Reads an input in which blanks and line breaks divide words, and quotes and
backslashes keep them together. The word that is read is given backwards, if it has
begun, and the words of the line in front of it. -/
def read (form : Form) : Place → Option Raw → List Raw → Raw → Input
  | place, word, words, [] =>
    match place, word with
    | .quote mark, some (_ :: _) => { openQuote := some mark, lines := [⟨words, true⟩] }
    | _, none => { lines := [⟨words, false⟩] }
    | _, some text =>
      if words.isEmpty ∧ form.last? = some text.reverse then {}
      else { lines := [⟨words ++ [text.reverse], false⟩] }
  | .escaped, word, words, c :: rest =>
    read form .word (some (c :: word.getD [])) words rest
  | .quote mark, word, words, c :: rest =>
    if c = '\n' then { openQuote := some mark, lines := [⟨words, true⟩] }
    else if c = mark then read form .word (some (word.getD [])) words rest
    else read form (.quote mark) (some (c :: word.getD [])) words rest
  | place, word, words, c :: rest =>
    match place, isWhite c with
    | .gap, true => read form .gap word words rest
    | _, _ =>
      if c = '\n' ∨ (isBlank c ∧ form.divides) then
        match word with
        | none => read form .gap none words rest
        | some text =>
          if form.last? = some text.reverse then { lines := [⟨words, true⟩] }
          else if c = '\n' then
            (read form .gap none [] rest).cons ⟨words ++ [text.reverse], true⟩
          else read form .gap none (words ++ [text.reverse]) rest
      else if c = '\\' then read form .escaped word words rest
      else if c = '"' ∨ c = '\x27' then read form (.quote c) word words rest
      else read form .word (some (c :: word.getD [])) words rest

/-- Reads an input in which one character ends every word. -/
def readEnded (mark : Char) (text : Raw) : Input :=
  let pieces := Raw.split mark text
  let pieces := if pieces.getLast? = some [] then pieces.dropLast else pieces
  { lines := pieces.map fun piece => ⟨[piece], true⟩ }

/-- How many arguments a call may have. -/
structure Limits where
  words : Option Nat
  lines : Option Nat
  size : Nat

/-- The words of a call that is not complete, the last one first. -/
structure Batch where
  words : List Raw := []
  lines : Nat := 0
  size : Nat := 0

/-- The words of all calls, and what is left behind the last complete one. Nothing
if a word is too long. -/
def batches (limits : Limits) : List Line → Batch → Option (List (List Raw) × List Raw)
  | [], batch => some ([], batch.words.reverse)
  | line :: more, batch =>
    let added := line.words.foldl
      (fun state word => state.bind fun ((done, batch) : List (List Raw) × Batch) =>
        let cost := word.length + 1
        if limits.size < cost then none
        else
          let (done, batch) :=
            if limits.size < batch.size + cost then
              (done ++ [batch.words.reverse], { lines := batch.lines })
            else (done, batch)
          let batch :=
            { batch with words := word :: batch.words, size := batch.size + cost }
          if limits.words = some batch.words.length then
            some (done ++ [batch.words.reverse], { lines := batch.lines })
          else some (done, batch))
      (some ([], batch))
    match added with
    | none => none
    | some (done, batch) =>
      let lines := batch.lines + (if line.isClosed then 1 else 0)
      let isFull := limits.lines.any (· ≤ lines)
      let (done, batch) : List (List Raw) × Batch :=
        if isFull then
          (if batch.words = [] then done else done ++ [batch.words.reverse], {})
        else (done, { batch with lines })
      (batches limits more batch).map fun (others, rest) => (done ++ others, rest)

/-- A text with another one in the place of a mark, in at most so many steps. -/
def replaced (mark text : Raw) : Nat → Raw → Raw
  | 0, rest => rest
  | _, [] => []
  | steps + 1, c :: rest =>
    if mark.isPrefixOf (c :: rest) then
      text ++ replaced mark text steps ((c :: rest).drop mark.length)
    else c :: replaced mark text steps rest

/-- The character that a delimiter is written as. -/
def delimiter? (text : Raw) : Option Char :=
  match text with
  | [c] => some c
  | ['\\', c] =>
    match c with
    | 'a' => some '\x07'
    | 'b' => some '\x08'
    | 'f' => some '\x0C'
    | 'n' => some '\n'
    | 'r' => some '\r'
    | 't' => some '\t'
    | 'v' => some '\x0B'
    | '\\' => some '\\'
    | c => if Escapes.isOctal c then some (Char.ofNat (c.toNat - 48)) else none
  | '\\' :: 'x' :: digits =>
    if digits.all (Escapes.isDigitTo 16) then
      some (Char.ofNat (Escapes.ofDigits 16 digits % 256))
    else none
  | '\\' :: digits =>
    if digits.all Escapes.isOctal then some (Char.ofNat (Escapes.ofDigits 8 digits % 256))
    else none
  | _ => none

/-- Which of the ways to divide the input is chosen by the options. -/
inductive Division where
  | all
  | words (count : Nat)
  | lines (count : Nat)
  | replacing (mark : Raw)

end Gathering

namespace Errand

open Gathering

/-- A number that is given to an option, of at least one. -/
def positive (letter : String) (text : Raw) : Errand Nat := do
  match decimal? text with
  | some 0 =>
    misuse 1 (raw "value " ++ text ++ raw " for -" ++ raw letter
      ++ raw " option should be >= 1")
  | some n => return n
  | none =>
    misuse 1 (raw "invalid number \"" ++ text ++ raw "\" for -" ++ raw letter ++ raw " option")

/-- The way to divide the input that the last option among some says, all earlier
ones being told to be of no use. -/
def divisionOf : List (String × Raw) → Division → Errand Division
  | [], division => return division
  | (option, value) :: more, division => do
    let exclusive (name old : String) : Errand Unit :=
      warn (raw "warning: options " ++ raw old ++ raw " and " ++ raw name
        ++ raw " are mutually exclusive, ignoring previous " ++ raw old ++ raw " value")
    let toldAs (name : String) : Errand Unit :=
      match division with
      | .all => pure ()
      | .words _ => if name = "--max-args/-n" then pure () else exclusive name "--max-args"
      | .lines _ => if name = "-L" then pure () else exclusive name "--max-lines"
      | .replacing _ =>
        if name = "--replace/-I/-i" then pure () else exclusive name "--replace"
    match option with
    | "I" =>
      toldAs "--replace/-I/-i"
      divisionOf more (.replacing (if value = [] then raw "\x7B\x7D" else value))
    | "L" =>
      let count ← positive "L" (if value = [] then ['1'] else value)
      toldAs "-L"
      divisionOf more (.lines count)
    | "n" =>
      let count ← positive "n" value
      match count, division with
      | 1, .replacing _ => divisionOf more division
      | _, _ =>
        toldAs "--max-args/-n"
        divisionOf more (.words count)
    | _ => divisionOf more division

/-- What has become of the calls for parts of the input. -/
structure Calls where
  count : Nat := 0
  status : Nat := 0

/-- Calls a program with arguments out of the input. -/
def callFor (call : Caller) (isTold : Bool) (words : List Raw) (calls : Calls) :
    Errand Calls := do
  if isTold then shout (Raw.joined [' '] (words.map Format.quoted) ++ ['\n'])
  match ← call words with
  | .error reason => die (startStatus reason) (about (words.headD []) reason)
  | .ok (.ended 255) =>
    die 124 (words.headD [] ++ raw ": exited with status 255; aborting")
  | .ok (.ended status) =>
    return { count := calls.count + 1, status := if status = 0 then calls.status else 123 }
  | .ok (.killed signal) =>
    die 125 (words.headD [] ++ raw ": terminated by signal " ++ Raw.ofNat signal)
  | .ok .exhausted => throw .exhausted

/-- Calls a program with the words of the input as arguments. -/
def gather (call : Caller) (arguments : List Raw) : Errand Unit := do
  let given ← given
    { letters := "0a:E:e::i::I:l::L:n:prs:txP:d:o", inOrder := true,
      words := [("null", .none, "0"), ("arg-file", .value, "a"), ("delimiter", .value, "d"),
        ("eof", .attached, "E"), ("replace", .attached, "I"), ("max-lines", .attached, "L"),
        ("max-args", .value, "n"), ("interactive", .none, "p"),
        ("no-run-if-empty", .none, "r"), ("max-chars", .value, "s"), ("verbose", .none, "t"),
        ("exit", .none, "x"), ("max-procs", .value, "P"), ("open-tty", .none, "o"),
        ("show-limits", .none, "S"), ("process-slot-var", .value, "V")] }
    arguments
  let options := given.options.map fun (option, value) =>
    (if option = "i" then "I" else if option = "l" then "L" else if option = "e" then "E"
      else option, value)
  let given := { given with options }
  let division ← divisionOf options .all
  let size ←
    match given.last? "s" with
    | some text => positive "s" text
    | none => pure 131072
  let mark ←
    match given.latest? ["0", "d"], given.last? "d" with
    | some "0", _ => pure (some '\x00')
    | some _, some text =>
      match delimiter? text with
      | some c => pure (some c)
      | none =>
        die 1 (raw "Invalid escape sequence " ++ text
          ++ raw " in input delimiter specification.")
    | _, _ => pure none
  let initial := if given.operands = [] then [raw "echo"] else given.operands
  let text ←
    match given.last? "a" with
    | none => drain 0
    | some path => content path
  let text ←
    match (text : Except IoFault Raw), given.last? "a" with
    | .ok text, _ => pure text
    | .error reason, some path =>
      die 1 (raw "Cannot open input file " ++ about (quote path) reason)
    | .error _, none => pure []
  let (replaces, limits) : Option Raw × Limits :=
    let cost := initial.foldl (fun cost word => cost + word.length + 1) 0
    let room := size - cost
    match division with
    | .all => (none, ⟨none, none, room⟩)
    | .words count => (none, ⟨some count, none, room⟩)
    | .lines count => (none, ⟨none, some count, room⟩)
    | .replacing mark => (some mark, ⟨none, some 1, room⟩)
  let last := (given.last? "E").filter (· ≠ [])
  let input :=
    match mark with
    | some c => readEnded c text
    | none => read ⟨replaces.isNone, last⟩ .gap none [] text
  let outer ← process
  if (given.last? "a").isNone then
    match outer.openPath (raw "/dev/null") .reading with
    | .ok (stream, process) => setProcess (process.lead 0 (some stream))
    | .error _ => pure ()
  let isTold := given.has "t" || given.has "p"
  let cut (word : Raw) : Raw := word.takeWhile (· ≠ '\x00')
  let each (calls : Calls) (words : List Raw) : Errand Calls :=
    match replaces with
    | none => callFor call isTold (initial ++ words.map cut) calls
    | some mark =>
      let text := cut (words.headD [])
      callFor call isTold
        (initial.take 1 ++ (initial.drop 1).map fun word =>
          replaced mark text (word.length + 1) word) calls
  let some (full, left) := batches limits input.lines {}
    | die 1 (raw "argument line too long")
  let calls ← full.foldlM each {}
  match input.openQuote with
  | some mark =>
    let isHeld := replaces.isSome || left = [] || limits.lines.isSome || given.has "x"
    let after ← if isHeld then pure calls else each calls left
    warn (raw "unmatched " ++ raw (if mark = '"' then "double" else "single")
      ++ raw " quote; by default quotes are special to xargs unless you use the -0 option")
    stop (if after.status = calls.status then 1 else after.status)
  | none =>
    let isIdle := calls.count = 0 && !given.has "r" && replaces.isNone
    let calls ← if left ≠ [] || isIdle then each calls left else pure calls
    setStatus calls.status

end Errand

end Rehearsal

end InstallPlan

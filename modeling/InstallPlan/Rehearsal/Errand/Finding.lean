import InstallPlan.Rehearsal.Errand.Listing
import InstallPlan.Rehearsal.Pattern
import InstallPlan.Rehearsal.Regex.Reading

/-!
# Rehearsal — Finding files

Goes through directories and tries an expression on all that is in them. An
expression is made of tests and actions; an action prints a path, takes a file
away or calls a program.
-/

namespace InstallPlan

namespace Rehearsal

namespace Finding

/-- What is compared with a number: less, equal or more. -/
structure Bound where
  compare : Int
  number : Nat

/-- Whether a number is as a bound says. -/
def Bound.holds (bound : Bound) (n : Nat) : Bool :=
  if bound.compare < 0 then n < bound.number
  else if 0 < bound.compare then bound.number < n
  else n = bound.number

/-- A test or an action, or several of them. -/
inductive Test where
  | constant (holds : Bool)
  | name (folds : Bool) (pattern : Raw)
  | path (folds : Bool) (pattern : Raw)
  | target (pattern : Raw)
  | regex (regex : Regex) (folds : Bool)
  | kind (letters : Raw)
  | isEmpty
  | size (bound : Bound) (unit : Nat)
  | links (bound : Bound)
  | serial (bound : Bound)
  | mode (sign : Char) (mode : Nat)
  | newer (stamp : Int)
  | age (bound : Bound) (unit : Int)
  | readable
  | executable
  | print (ending : Char)
  | format (format : Raw)
  | list
  /-- Calls a program for every file. -/
  | call (words : List Raw) (inDirectory : Bool)
  /-- Calls a program for all files together. -/
  | gather (number : Nat)
  | delete
  | skip
  | quit
  | negated (test : Test)
  | both (first second : Test)
  | either (first second : Test)
  | last (first second : Test)

/-- Whether a test does something. -/
def Test.acts : Test → Bool
  | .print _ | .format _ | .list | .call _ _ | .gather _ | .delete | .quit => true
  | .negated t => t.acts
  | .both a b | .either a b | .last a b => a.acts || b.acts
  | _ => false

/-- What is asked of the program. -/
structure Search where
  follows : Bool := false
  followsOperands : Bool := false
  deepest : Option Nat := none
  shallowest : Nat := 0
  depthFirst : Bool := false
  gathered : List (List Raw) := []

/-- Words that are read as an expression, and what is asked beside it. -/
structure Reading where
  words : List Raw
  search : Search

/-- A reader of an expression. -/
abbrev Reader := StateT Reading Errand

/-- Ends the program for an expression that makes no sense. -/
def refuse {α : Type} (message : Raw) : Reader α := fun _ => Errand.die 1 message

/-- The word behind a test. -/
def argument (test : Raw) : Reader Raw := do
  match (← get).words with
  | [] => refuse (raw "missing argument to \x60" ++ test ++ ['\x27'])
  | word :: rest =>
    modify fun r => { r with words := rest }
    return word

/-- A number that may say less or more. -/
def bound (test text : Raw) : Reader Bound := do
  let (compare, digits) : Int × Raw :=
    match text with
    | '+' :: more => (1, more)
    | '-' :: more => (-1, more)
    | _ => (0, text)
  match decimal? digits with
  | some number => return { compare, number }
  | none => refuse (raw "invalid argument \x60" ++ text ++ raw "' to \x60" ++ test ++ ['\x27'])

/-- The words of a call, up to the one that ends it, and whether all files are
gathered for it. -/
def callWords (test : Raw) : Nat → List Raw → Reader (List Raw × Bool)
  | 0, _ => refuse (raw "missing argument to \x60" ++ test ++ ['\x27'])
  | steps + 1, found => do
    let word ← argument test
    if word = [';'] then return (found.reverse, false)
    else if word = ['+'] ∧ found.head? = some (raw "\x7B\x7D") then return (found.reverse, true)
    else callWords test steps (word :: found)

/-- Notes a call for all files together. -/
def gathering (words : List Raw) : Reader Test := do
  let number := (← get).search.gathered.length
  modify fun r => { r with search := { r.search with gathered := r.search.gathered ++ [words] } }
  return .gather number

/-- Reads one test. -/
def single (word : Raw) : Reader Test := do
  let set (f : Search → Search) : Reader Test := do
    modify fun r => { r with search := f r.search }
    return .constant true
  let number : Reader Nat := do
    let text ← argument word
    match decimal? text with
    | some n => return n
    | none =>
      refuse (raw "Expected a positive decimal integer argument to " ++ word ++ raw ", but got "
        ++ Errand.quote text)
  match String.ofList word with
  | "-name" => return .name false (← argument word)
  | "-iname" => return .name true (← argument word)
  | "-path" | "-wholename" => return .path false (← argument word)
  | "-ipath" | "-iwholename" => return .path true (← argument word)
  | "-lname" => return .target (← argument word)
  | "-regex" | "-iregex" =>
    match Regex.read { extended := false } (← argument word) with
    | .ok regex => return .regex regex (word = raw "-iregex")
    | .error flaw => refuse (raw flaw.message)
  | "-type" | "-xtype" =>
    let letters := (← argument word).filter (· ≠ ',')
    match letters.find? fun c => !"bcdpflsD".toList.contains c with
    | some c => refuse (raw "Unknown argument to -type: " ++ [c])
    | none => return .kind letters
  | "-empty" => return .isEmpty
  | "-true" => return .constant true
  | "-false" => return .constant false
  | "-user" | "-uid" | "-group" | "-gid" =>
    let owner ← argument word
    return .constant (owner = raw "root" || owner = ['0'])
  | "-readable" | "-writable" => return .readable
  | "-executable" => return .executable
  | "-size" =>
    let text ← argument word
    let (digits, unit) : Raw × Nat :=
      match text.getLast? with
      | some 'c' => (text.dropLast, 1)
      | some 'w' => (text.dropLast, 2)
      | some 'b' => (text.dropLast, 512)
      | some 'k' => (text.dropLast, 1024)
      | some 'M' => (text.dropLast, 1048576)
      | some 'G' => (text.dropLast, 1073741824)
      | _ => (text, 512)
    return .size (← bound word digits) unit
  | "-links" => return .links (← bound word (← argument word))
  | "-inum" => return .serial (← bound word (← argument word))
  | "-perm" =>
    let text ← argument word
    let (sign, text) : Char × Raw :=
      match text with
      | '-' :: more => ('-', more)
      | '/' :: more => ('/', more)
      | _ => ('=', text)
    match Errand.newMode? 0 false 0 text with
    | some mode => return .mode sign mode
    | none => refuse (raw "invalid mode " ++ Errand.quote text)
  | "-newer" | "-anewer" | "-cnewer" =>
    let path ← argument word
    match (← (Errand.process : Errand Process)).status? path with
    | .ok (_, node) => return .newer node.stamp
    | .error reason => refuse (Errand.quote path ++ raw ": " ++ raw reason.reason)
  | "-mtime" | "-atime" | "-ctime" =>
    return .age (← bound word (← argument word)) 86400000000000
  | "-mmin" | "-amin" | "-cmin" => return .age (← bound word (← argument word)) 60000000000
  | "-print" => return .print '\n'
  | "-print0" => return .print '\x00'
  | "-printf" => return .format (← argument word)
  | "-ls" => return .list
  | "-delete" =>
    let _ ← set fun s => { s with depthFirst := true }
    return .delete
  | "-prune" => return .skip
  | "-quit" => return .quit
  | "-exec" | "-execdir" | "-ok" | "-okdir" =>
    let (words, all) ← callWords word ((← get).words.length + 1) []
    if words = [] then refuse (raw "invalid argument \x60;' to \x60" ++ word ++ ['\x27'])
    if all then gathering words else return .call words (word = raw "-execdir")
  | "-maxdepth" =>
    let n ← number
    set fun s => { s with deepest := some n }
  | "-mindepth" =>
    let n ← number
    set fun s => { s with shallowest := n }
  | "-depth" | "-d" => set fun s => { s with depthFirst := true }
  | "-follow" => set fun s => { s with follows := true }
  | "-mount" | "-xdev" | "-noleaf" | "-ignore_readdir_race" | "-daystart" | "-warn" | "-nowarn" =>
    return .constant true
  | "-regextype" =>
    let _ ← argument word
    return .constant true
  | _ =>
    if word.head? = some '-' then refuse (raw "unknown predicate \x60" ++ word ++ ['\x27'])
    else refuse (raw "paths must precede expression: \x60" ++ word ++ ['\x27'])

mutual

/-- Reads tests joined by a comma. -/
def sequence : Nat → Reader Test
  | 0 => refuse (raw "expression is too long")
  | steps + 1 => do
    let first ← choices steps
    match (← get).words with
    | [','] :: rest =>
      modify fun r => { r with words := rest }
      return .last first (← sequence steps)
    | _ => return first

/-- Reads tests of which one is enough. -/
def choices : Nat → Reader Test
  | 0 => refuse (raw "expression is too long")
  | steps + 1 => do
    let first ← run steps
    match (← get).words with
    | word :: rest =>
      if word = raw "-o" ∨ word = raw "-or" then
        modify fun r => { r with words := rest }
        return .either first (← choices steps)
      else return first
    | [] => return first

/-- Reads tests that must all hold. -/
def run : Nat → Reader Test
  | 0 => refuse (raw "expression is too long")
  | steps + 1 => do
    let first ← operand steps
    match (← get).words with
    | word :: rest =>
      if word = raw "-a" ∨ word = raw "-and" then
        modify fun r => { r with words := rest }
        return .both first (← run steps)
      else if word = raw "-o" ∨ word = raw "-or" ∨ word = [','] ∨ word = [')'] then return first
      else return .both first (← run steps)
    | [] => return first

/-- Reads one operand. -/
def operand : Nat → Reader Test
  | 0 => refuse (raw "expression is too long")
  | steps + 1 => do
    match (← get).words with
    | [] => refuse (raw "expected an expression")
    | word :: rest =>
      modify fun r => { r with words := rest }
      if word = ['!'] ∨ word = raw "-not" then return .negated (← operand steps)
      else if word = ['('] then
        let inner ← sequence steps
        match (← get).words with
        | [')'] :: rest =>
          modify fun r => { r with words := rest }
          return inner
        | _ =>
          refuse (raw "invalid expression; I was expecting to find a ')' somewhere but did not "
            ++ raw "see one.")
      else single word

end

/-! ## Going through files -/

/-- A file that the tests are tried on. -/
structure Candidate where
  path : Raw
  /-- The operand that it was found below. -/
  operand : Raw
  number : Nat
  node : Node
  depth : Nat

/-- What the tests have come to: the files gathered for calls, and whether to go
below the file, or on at all. -/
structure Course where
  gathered : List (List Raw) := []
  skips : Bool := false
  quits : Bool := false

/-- A step of the search. -/
abbrev Step := StateT Course Errand

/-- A text with braces replaced by a path. -/
def filledIn (path : Raw) : Nat → Raw → Raw
  | 0, text => text
  | _, [] => []
  | steps + 1, '\x7B' :: '\x7D' :: rest => path ++ filledIn path steps rest
  | steps + 1, c :: rest => c :: filledIn path steps rest

/-- What a letter in a format tells of a file. -/
def tell (tree : Tree) (file : Candidate) (letter : Char) : Option Raw :=
  match letter with
  | 'p' => some file.path
  | 'f' => some (Errand.lastName file.path)
  | 'h' =>
    some (if file.path.contains '/' then Errand.parentPath file.path else ['.'])
  | 'P' =>
    let below := file.path.drop file.operand.length
    some (if below.head? = some '/' then below.drop 1 else below)
  | 'H' => some file.operand
  | 'd' => some (Raw.ofNat file.depth)
  | 'y' => some [if file.node.entry.isRegular then 'f' else Errand.kindLetter file.node.entry]
  | 'm' => some (Nat.toDigits 8 file.node.mode)
  | 'M' => some (Errand.modeLetters file.node.entry file.node.mode)
  | 'l' => match file.node.entry with
    | .link target => some target
    | _ => some []
  | 'n' => some (Raw.ofNat (tree.nameCount file.number))
  | 'T' => some (Raw.ofInt (file.node.stamp.fdiv 1000000000))
  | 't' => some (Errand.timeText 64 file.node.stamp (raw "%a %b %e %H:%M:%S %Y"))
  | 'k' => some (Raw.ofNat ((file.node.entry.size + 1023) / 1024))
  | 'u' | 'g' => some (raw "root")
  | letter => Errand.nodeText tree file.path file.number file.node letter

/-- Tries a test on a file. -/
def holds (call : Caller) (file : Candidate) : Test → Step Bool
  | .constant holds => return holds
  | .name folds pattern =>
    return Pattern.acceptsText folds pattern (Errand.lastName file.path)
  | .path folds pattern => return Pattern.acceptsText folds pattern file.path
  | .target pattern =>
    match file.node.entry with
    | .link target => return Pattern.acceptsText false pattern target
    | _ => return false
  | .regex regex folds => return regex.isWhole { text := file.path.toArray, folds }
  | .kind letters =>
    return letters.contains
      (if file.node.entry.isRegular then 'f' else Errand.kindLetter file.node.entry)
  | .isEmpty =>
    match file.node.entry with
    | .file content => return content.isEmpty
    | .directory _ names => return names.isEmpty
    | _ => return false
  | .size bound unit => return bound.holds ((file.node.entry.size + unit - 1) / unit)
  | .links bound => return bound.holds ((← Errand.tree).nameCount file.number)
  | .serial bound => return bound.holds (file.number + 1)
  | .mode sign mode =>
    let bits := file.node.mode &&& mode
    return if sign = '-' then bits = mode
      else if sign = '/' then mode = 0 || bits ≠ 0 else file.node.mode = mode
  | .newer stamp => return stamp < file.node.stamp
  | .age bound unit =>
    return bound.holds (((← Errand.process).system.clock - file.node.stamp).fdiv unit).toNat
  | .readable => return true
  | .executable => return file.node.isExecutable
  | .print ending => do
    Errand.say (file.path ++ [ending])
    return true
  | .format format => do
    let escapes : Escapes := { letters := Escapes.common }
    let tree ← Errand.tree
    Errand.say
      (Errand.formatted (tell tree file) (format.length + 1) (escapes.replace 0 format).1)
    return true
  | .list => do
    Errand.sayLine (Raw.joined [' '] [Raw.ofNat (file.number + 1),
      Errand.modeLetters file.node.entry file.node.mode, raw "root root",
      Raw.ofNat file.node.entry.size, file.path])
    return true
  | .call words inDirectory => do
    Errand.flush
    let name := if inDirectory then raw "./" ++ Errand.lastName file.path else file.path
    let filled := words.map fun word => filledIn name (word.length + 1) word
    let before ← Errand.process
    if inDirectory then
      match before.tree.find before.here (Errand.parentPath file.path) with
      | .ok here => Errand.setProcess { before with here }
      | .error _ => pure ()
    let result ← call filled
    Errand.setProcess { ← Errand.process with here := before.here }
    match result with
    | .ok halt => return halt = .ended 0
    | .error reason =>
      Errand.warn (Errand.quote (filled.headD []) ++ raw ": " ++ raw reason.reason)
      return false
  | .gather number => do
    modify fun course =>
      { course with
        gathered := course.gathered.mapIdx fun i paths =>
          if i = number then paths ++ [file.path] else paths }
    return true
  | .delete => do
    let here ← Errand.here
    if file.path = ['.'] then return true
    let result ←
      if file.node.entry.isDirectory then Errand.change (Tree.removeDirectory here file.path)
      else Errand.change (Tree.removeName here file.path)
    match result with
    | .ok _ => return true
    | .error reason =>
      Errand.refuse "cannot delete" file.path reason
      return false
  | .skip => do
    modify fun course => { course with skips := true }
    return true
  | .quit => do
    modify fun course => { course with quits := true }
    return true
  | .negated test => return !(← holds call file test)
  | .both a b => do if ← holds call file a then holds call file b else return false
  | .either a b => do if ← holds call file a then return true else holds call file b
  | .last a b => do
    let _ ← holds call file a
    holds call file b

/-- Goes through what is below a path, in at most so many levels. -/
def visit (call : Caller) (search : Search) (test : Test) (operand : Raw) :
    Nat → Nat → Raw → Step Unit
  | 0, _, _ => pure ()
  | levels + 1, depth, path => do
    if (← get).quits then return
    let process ← (Errand.process : Errand Process)
    let follows := search.follows || (search.followsOperands && depth = 0)
    let found : Except IoFault Nat :=
      if follows then
        match process.tree.find process.here path with
        | .ok number => .ok number
        | .error _ => process.tree.findUnfollowed process.here path
      else process.tree.findUnfollowed process.here path
    match found with
    | .error reason => Errand.fault (Errand.quote path ++ raw ": " ++ raw reason.reason)
    | .ok number =>
      match process.tree.node? number with
      | none => pure ()
      | some node =>
        let file : Candidate := { path, operand, number, node, depth }
        let tried : Step Unit := do
          if search.shallowest ≤ depth then
            let _ ← holds call file test
            pure ()
        modify fun course => { course with skips := false }
        if !search.depthFirst then tried
        let skips := (← get).skips && !search.depthFirst
        if node.entry.isDirectory && !skips && search.deepest.all (depth < ·) then
          ((← (Errand.tree : Errand Tree)).members number).forM fun (name, _) =>
            visit call search test operand levels (depth + 1) (Errand.inside path name)
        if search.depthFirst && !(← get).quits then tried

end Finding

namespace Errand

/-- Finds files. -/
def find (call : Caller) (arguments : List Raw) : Errand Unit := do
  let isGlobal (a : Raw) : Bool := [raw "-H", raw "-L", raw "-P"].contains a
  let globals := arguments.takeWhile isGlobal
  let rest := arguments.drop globals.length
  let startsExpression (a : Raw) : Bool :=
    match a with
    | '-' :: _ :: _ | ['('] | [')'] | ['!'] | [','] => true
    | _ => false
  let operands := rest.takeWhile (!startsExpression ·)
  let words := rest.drop operands.length
  let start : Finding.Search :=
    { follows := globals.getLast? = some (raw "-L")
      followsOperands := globals.getLast? = some (raw "-H") }
  let reading : Finding.Reading := { words, search := start }
  let (test, reading) ←
    if words = [] then pure (Finding.Test.print '\n', reading)
    else Finding.sequence (8 * words.length + 8) reading
  match reading.words with
  | [')'] :: _ => die 1 (raw "invalid expression; you have too many ')'")
  | extra :: _ => die 1 (raw "paths must precede expression: \x60" ++ extra ++ ['\x27'])
  | [] => pure ()
  let test := if test.acts then test else .both test (.print '\n')
  let operands := if operands = [] then [['.']] else operands
  let search := reading.search
  let (_, course) ← (operands.forM fun operand =>
    Finding.visit call search test operand 4096 0 operand : Finding.Step Unit)
    { gathered := search.gathered.map fun _ => [] }
  (search.gathered.zip course.gathered).forM fun (words, paths) => do
    if paths ≠ [] then
      flush
      match ← call (words.dropLast ++ paths) with
      | .ok halt => if halt ≠ .ended 0 then setStatus 1
      | .error reason => fault (quote (words.headD []) ++ raw ": " ++ raw reason.reason)

end Errand

end Rehearsal

end InstallPlan

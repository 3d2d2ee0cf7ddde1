import InstallPlan.Rehearsal.Errand.Names
import InstallPlan.Rehearsal.Pattern
import InstallPlan.Rehearsal.Regex.Reading

/-!
# Rehearsal — Searching in files

Prints the lines that match one of some expressions, or tells how many there are,
or in which files.
-/

namespace InstallPlan

namespace Rehearsal

namespace Searching

/-- What is searched for. -/
structure Quest where
  expressions : List Regex
  folds : Bool := false
  /-- Whether a match must be a whole line. -/
  isWhole : Bool := false
  /-- Whether a match must not be a part of a word. -/
  isWord : Bool := false

/-- What is told about a file. -/
inductive Report where
  | lines
  | count
  | namesWith
  | namesWithout
  /-- Nothing at all. -/
  | nothing
  deriving DecidableEq

/-- How the search is reported. -/
structure Manner where
  report : Report := .lines
  inverted : Bool := false
  /-- Whether only what matches is printed. -/
  onlyMatches : Bool := false
  numbers : Bool := false
  offsets : Bool := false
  names : Bool := false
  /-- Whether a null follows a name. -/
  nullNames : Bool := false
  most : Option Nat := none
  before : Nat := 0
  after : Nat := 0
  hasContext : Bool := false
  mark : Char := '\n'
  /-- Whether every file counts as one that holds text. -/
  isText : Bool := false
  colored : Bool := false

/-- A line as it is searched. -/
def subjectOf (quest : Quest) (text : Raw) : Regex.Subject :=
  { text := text.toArray, folds := quest.folds }

/-- Where a match of an expression that begins at a position ends, if it must not be a
part of a word. Only the longest match may be empty. -/
def wordEnd? (subject : Regex.Subject) (expression : Regex) (p : Nat) : Option Nat :=
  if p ≠ 0 ∧ subject.isWordAt (p - 1) then none
  else
    let ends := (expression.ends subject [p]).mergeSort fun a b => decide (b ≤ a)
    match ends.find? fun last => !subject.isWordAt last with
    | some last => if last = p ∧ ends.head? ≠ some p then none else some last
    | none => none

/-- The first match in a line from a position on, and of those the longest. -/
def next? (quest : Quest) (subject : Regex.Subject) (p : Nat) : Option (Nat × Nat) :=
  let found : List (Nat × Nat) :=
    if quest.isWhole then
      if p = 0 ∧ quest.expressions.any (·.isWhole subject) then [(0, subject.text.size)] else []
    else
      quest.expressions.filterMap fun expression =>
        if quest.isWord then
          ((List.range (subject.text.size + 1 - p)).map (p + ·)).findSome? fun start =>
            (wordEnd? subject expression start).map fun last => (start, last)
        else (expression.search subject p).map fun found => (found.first, found.last)
  found.foldl
    (fun best (first, last) =>
      match best with
      | none => some (first, last)
      | some (a, b) =>
        if first < a ∨ (first = a ∧ b < last) then some (first, last) else some (a, b))
    none

/-- Whether a line matches. -/
def matchesLine (quest : Quest) (text : Raw) : Bool :=
  let subject := subjectOf quest text
  if quest.isWhole ∨ quest.isWord then (next? quest subject 0).isSome
  else quest.expressions.any (·.occurs subject)

/-- All matches in a line that are not empty, in at most so many steps. -/
def all (quest : Quest) (subject : Regex.Subject) : Nat → Nat → List (Nat × Nat)
  | 0, _ => []
  | steps + 1, p =>
    match next? quest subject p with
    | none => []
    | some (first, last) =>
      if first = last then all quest subject steps (last + 1)
      else (first, last) :: all quest subject steps last

/-- A line of a file, with its number and the number of octets in front of it. -/
structure Line where
  text : Raw
  number : Nat
  offset : Nat

/-- The lines of a text. -/
def linesOf (mark : Char) (text : Raw) : List Line :=
  let pieces := Raw.split mark text
  let pieces := if pieces.getLast? = some [] then pieces.dropLast else pieces
  (pieces.foldl
    (fun ((lines, number, offset) : List Line × Nat × Nat) text =>
      (⟨text, number, offset⟩ :: lines, number + 1, offset + text.length + 1))
    ([], 1, 0)).1.reverse

/-- What the printing of lines has come to. -/
structure Progress where
  /-- What is printed, the last part first. -/
  text : List Raw := []
  /-- The lines in front that may have to be printed, the last one first. -/
  waiting : List Line := []
  /-- The number of lines behind that are still to be printed. -/
  owed : Nat := 0
  /-- The number of the line that was printed last. -/
  last : Option Nat := none
  found : Nat := 0

/-- A text in a colour. -/
def painted (manner : Manner) (code : String) (text : Raw) : Raw :=
  if manner.colored then
    raw "\x1B[" ++ raw code ++ raw "m\x1B[K" ++ text ++ raw "\x1B[m\x1B[K"
  else text

/-- What stands in front of a line. -/
def lead (manner : Manner) (name : Raw) (line : Line) (offset : Nat) (separator : Char) : Raw :=
  let sign := painted manner "36" [separator]
  let name : Raw :=
    if !manner.names then []
    else painted manner "35" name ++ (if manner.nullNames then ['\x00'] else sign)
  let number : Raw :=
    if manner.numbers then painted manner "32" (Raw.ofNat line.number) ++ sign else []
  let offset : Raw :=
    if manner.offsets then painted manner "32" (Raw.ofNat offset) ++ sign else []
  name ++ number ++ offset

/-- A line with its matches in colour. -/
def highlighted (manner : Manner) (quest : Quest) (text : Raw) : Raw :=
  if !manner.colored ∨ manner.inverted then text
  else
    let subject := subjectOf quest text
    let (done, p) := (all quest subject (text.length + 1) 0).foldl
      (fun ((done, p) : Raw × Nat) (first, last) =>
        (done ++ (text.drop p).take (first - p)
          ++ painted manner "01;31" ((text.drop first).take (last - first)), last))
      ([], 0)
    done ++ text.drop p

/-- Prints a line, or the matches in it. -/
def printed (manner : Manner) (quest : Quest) (name : Raw) (separator : Char) (line : Line) :
    Raw :=
  if manner.onlyMatches then
    if separator ≠ ':' ∨ manner.inverted then []
    else
      (all quest (subjectOf quest line.text) (line.text.length + 1) 0).flatMap fun (first, last) =>
        lead manner name line (line.offset + first) ':'
          ++ painted manner "01;31" ((line.text.drop first).take (last - first)) ++ [manner.mark]
  else
    lead manner name line line.offset separator
      ++ (if separator = ':' then highlighted manner quest line.text else line.text)
      ++ [manner.mark]

/-- Prints a line of a file, behind a mark if there is a gap in front of it. -/
def printLine (manner : Manner) (quest : Quest) (name : Raw) (separator : Char) (line : Line)
    (progress : Progress) : Progress :=
  let isApart := manner.hasContext && progress.last.any (· + 1 < line.number)
  let gap : Raw := if isApart then painted manner "36" ['-', '-'] ++ ['\n'] else []
  { progress with
    text := printed manner quest name separator line :: gap :: progress.text
    last := some line.number }

/-- Goes through the lines of a file. -/
def go (manner : Manner) (quest : Quest) (name : Raw) : List Line → Progress → Progress
  | [], progress => progress
  | line :: more, progress =>
    let isFull := manner.most.any (· ≤ progress.found)
    if isFull && progress.owed = 0 then progress
    else if matchesLine quest line.text != manner.inverted && !isFull then
      let progress := progress.waiting.reverse.foldl
        (fun progress line => printLine manner quest name '-' line progress) progress
      let progress := printLine manner quest name ':' line progress
      go manner quest name more
        { progress with waiting := [], owed := manner.after, found := progress.found + 1 }
    else if progress.owed ≠ 0 then
      let progress := printLine manner quest name '-' line progress
      go manner quest name more { progress with owed := progress.owed - 1 }
    else
      go manner quest name more
        { progress with waiting := (line :: progress.waiting).take manner.before }

/-- The number of lines that are found, at most so many. -/
def count (manner : Manner) (quest : Quest) (lines : List Line) : Nat :=
  let found := (lines.filter fun line => matchesLine quest line.text != manner.inverted).length
  match manner.most with
  | some most => min most found
  | none => found

/-- Whether a line is found. -/
def any (manner : Manner) (quest : Quest) (lines : List Line) : Bool :=
  manner.most ≠ some 0
    && lines.any fun line => matchesLine quest line.text != manner.inverted

/-- The paths of the files in a directory, at most so many levels deep. -/
def filesIn (tree : Tree) (isWanted isEntered : Raw → Bool) (follows : Bool) :
    Nat → Nat → Raw → List Raw
  | 0, _, _ => []
  | levels + 1, number, path =>
    (tree.members number).flatMap fun (name, inner) =>
      let path :=
        if path = [] then name
        else if path.getLast? = some '/' then path ++ name
        else path ++ '/' :: name
      let target : Option Nat :=
        match tree.entry? inner with
        | some (.link _) => if follows then (tree.find number name).toOption else none
        | _ => some inner
      match target.bind fun n => (tree.entry? n).map fun entry => (n, entry) with
      | some (n, .directory _ _) =>
        if isEntered name then filesIn tree isWanted isEntered follows levels n path else []
      | some (_, entry) => if entry.isRegular && isWanted name then [path] else []
      | none => []

end Searching

namespace Errand

open Searching

/-- The options of the search. -/
def searchOptions : Options :=
  { letters := "A:B:C:D:EFGHILPTUVX:abcd:e:f:hiLlm:noqRrsuvwxyZz"
    words := [("after-context", .value, "A"), ("basic-regexp", .none, "G"),
      ("before-context", .value, "B"), ("binary", .none, "U"),
      ("binary-files", .value, "binary"), ("byte-offset", .none, "b"), ("color", .attached, "color"),
      ("colour", .attached, "color"), ("context", .value, "C"), ("count", .none, "c"),
      ("dereference-recursive", .none, "R"), ("devices", .value, "D"),
      ("directories", .value, "d"), ("exclude", .value, "exclude"),
      ("exclude-dir", .value, "exclude-dir"), ("exclude-from", .value, "exclude-from"),
      ("extended-regexp", .none, "E"), ("file", .value, "f"),
      ("files-with-matches", .none, "l"), ("files-without-match", .none, "L"),
      ("fixed-strings", .none, "F"), ("ignore-case", .none, "i"), ("include", .value, "include"),
      ("initial-tab", .none, "T"), ("invert-match", .none, "v"), ("label", .value, "label"),
      ("line-buffered", .none, "u"), ("line-number", .none, "n"), ("line-regexp", .none, "x"),
      ("max-count", .value, "m"), ("no-filename", .none, "h"), ("no-ignore-case", .none, "no-i"),
      ("no-messages", .none, "s"), ("null", .none, "Z"), ("null-data", .none, "z"),
      ("only-matching", .none, "o"), ("perl-regexp", .none, "P"), ("quiet", .none, "q"),
      ("recursive", .none, "r"), ("regexp", .value, "e"), ("silent", .none, "q"),
      ("text", .none, "a"), ("with-filename", .none, "H"), ("word-regexp", .none, "w")] }

/-- Ends the search for a use that makes no sense. -/
def misuseSearch {α : Type} (message : Option Raw) : Errand α := do
  match message with
  | some text => warn text
  | none => pure ()
  let name := (← get).name
  shout (raw "Usage: " ++ name ++ raw " [OPTION]... PATTERNS [FILE]...\n")
  shout (raw "Try '" ++ name ++ raw " --help' for more information.\n")
  stop 2

/-- The expression that a pattern stands for. -/
def expressionOf (given : Given) (pattern : Raw) : Errand Regex := do
  match given.latest? ["E", "F", "G", "P"] with
  | some "F" => return Regex.literal pattern
  | kind =>
    let extended := kind = some "E" || kind = some "P"
    let inner := ((pattern.drop 2).dropLast).dropLast
    if pattern = raw "[:" ++ inner ++ raw ":]" ∧ inner.all Char.isAlpha then
      die 2 (raw "character class syntax is [[:space:]], not [:space:]")
    let dialect : Regex.Dialect :=
      { extended, leadingSigns := kind ≠ some "P", digits := kind = some "P" }
    match Regex.read dialect pattern with
    | .ok regex => return regex
    | .error flaw =>
      if pattern = ['['] then die 2 (raw "Invalid regular expression")
      else die 2 (raw flaw.message)

/-- A number of lines that is given to an option. -/
def contextLength (given : Given) (option : String) : Errand (Option Nat) := do
  match given.last? option with
  | none => return none
  | some text =>
    match decimal? text with
    | some n => return some n
    | none => die 2 (text ++ raw ": invalid context length argument")

/-- How a search is reported. -/
def searchManner (given : Given) (isMany : Bool) : Errand Manner := do
  let around ← contextLength given "C"
  let before ← contextLength given "B"
  let after ← contextLength given "A"
  let most ←
    match given.last? "m" with
    | none => pure none
    | some text =>
      match decimal? text, text with
      | some n, _ => pure (some n)
      | none, '-' :: digits =>
        if (decimal? digits).isSome then pure none else die 2 (raw "invalid max count")
      | none, _ => die 2 (raw "invalid max count")
  let report : Report :=
    if given.has "q" then .nothing
    else
      match given.latest? ["l", "L"] with
      | some "l" => .namesWith
      | some _ => .namesWithout
      | none => if given.has "c" then .count else .lines
  return {
    report
    inverted := given.has "v"
    onlyMatches := given.has "o"
    numbers := given.has "n"
    offsets := given.has "b"
    names :=
      match given.latest? ["H", "h"] with
      | some option => option = "H"
      | none => isMany
    nullNames := given.has "Z"
    most
    before := (before.orElse fun _ => around).getD 0
    after := (after.orElse fun _ => around).getD 0
    hasContext := around.isSome || before.isSome || after.isSome
    mark := if given.has "z" then '\x00' else '\n'
    isText := given.has "a" || given.last? "binary" = some (raw "text")
    colored := given.last? "color" = some (raw "always") }

/-- Says a name of a file, with its end. -/
def sayFileName (manner : Manner) (name : Raw) (ending : Char) : Errand Unit :=
  say (painted manner "35" name ++ [if manner.nullNames then '\x00' else ending])

/-- Searches in a file, and tells whether something was found. -/
def searchIn (quest : Quest) (manner : Manner) (name text : Raw) : Errand Bool := do
  let lines := Searching.linesOf manner.mark text
  let isBinary := !manner.isText && manner.mark = '\n' && text.contains '\x00'
  match manner.report with
  | .nothing => return any manner quest lines
  | .namesWith =>
    let found := any manner quest lines
    if found then sayFileName manner name '\n'
    return found
  | .namesWithout =>
    let found := any manner quest lines
    if !found then sayFileName manner name '\n'
    return found
  | .count =>
    let n := count manner quest lines
    if manner.names then sayFileName manner name ':'
    sayLine (Raw.ofNat n)
    return n ≠ 0
  | .lines =>
    if isBinary then
      let found := any manner quest lines
      if found ∧ !(manner.onlyMatches && manner.inverted) then
        warn (name ++ raw ": binary file matches")
      return found
    else
      let progress := go manner quest name lines {}
      say progress.text.reverse.flatten
      return progress.found ≠ 0

/-- The arguments with context lengths that are written as numbers alone. -/
def withContexts (arguments : List Raw) : List Raw :=
  let options := arguments.takeWhile (· ≠ raw "--")
  (options.map fun argument =>
    match argument with
    | '-' :: digits => if (decimal? digits).isSome then raw "-C" ++ digits else argument
    | _ => argument) ++ arguments.drop options.length

/-- Prints the lines of files that match one of some expressions. -/
def search (arguments : List Raw) : Errand Unit := do
  let given ←
    match searchOptions.read (withContexts arguments) with
    | .ok given => if given.has "help" || given.has "version" then stop 0 else pure given
    | .error message => misuseSearch (some message)
  let written := given.options.filter fun o => o.1 = "e" || o.1 = "f"
  let (patterns, operands) ←
    if written = [] then
      match given.operands with
      | [] => misuseSearch none
      | pattern :: operands => pure (Raw.split '\n' pattern, operands)
    else
      let patterns ← written.mapM fun (option, value) => do
        if option = "e" then return Raw.split '\n' value
        else
          match ← content value with
          | .ok text => return Raw.lines text
          | .error reason => die 2 (about value reason)
      pure (patterns.flatten, given.operands)
  let expressions ← patterns.mapM (expressionOf given)
  let quest : Quest :=
    { expressions
      folds := given.latest? ["i", "y", "no-i"] |>.any (· ≠ "no-i")
      isWhole := given.has "x"
      isWord := given.has "w" }
  let recursion := given.latest? ["r", "R"]
  let manner ← searchManner given (1 < operands.length || recursion.isSome)
  let process ← process
  let tree := process.tree
  let accepts (patterns : List Raw) (name : Raw) : Bool :=
    patterns.any fun pattern => Pattern.acceptsText false pattern name
  let isWanted (name : Raw) : Bool :=
    !accepts (given.all "exclude") name
      && (given.all "include" = [] || accepts (given.all "include") name)
  let isEntered (name : Raw) : Bool := !accepts (given.all "exclude-dir") name
  let follows := recursion = some "R"
  let isSilent := given.has "s"
  let found ← (if operands = [] ∧ recursion.isSome then [([], ['.'])] else
      (if operands = [] then [['-']] else operands).map fun path => (path, path)).mapM
    fun (shown, path) => do
      match tree.find process.here path with
      | .ok number =>
        if path ≠ ['-'] ∧ tree.isDirectory number then
          if recursion.isSome then
            return (filesIn tree isWanted isEntered follows 4096 number shown).map fun file =>
              (file, file)
          else if given.last? "d" = some (raw "skip") then return []
          else
            if !isSilent then warn (about path .isADirectory)
            setStatus 2
            return []
        else return if isWanted (lastName path) then [(path, path)] else []
      | .error _ => return [(path, path)]
  let isSingle := recursion.isSome && operands.length = 1
    && operands.all fun path => !tree.leadsToDirectory process.here path
  let manner :=
    if isSingle ∧ (given.latest? ["H", "h"]).isNone then { manner with names := false }
    else manner
  let results ← found.flatten.mapM fun (name, path) => do
    match ← content path with
    | .error reason =>
      if !isSilent then warn (about path reason)
      setStatus 2
      return false
    | .ok text =>
      let name :=
        if path = ['-'] then (given.last? "label").getD (raw "(standard input)") else name
      let isFound ← searchIn quest manner name text
      if isFound ∧ manner.report = .nothing then
        setStatus 0
        stop 0
      return isFound
  let status := (← get).status
  let isFound := results.any id
  setStatus (if status = 2 then 2 else if isFound then 0 else 1)

/-- Searches with a kind of expressions that is fixed by the name of the program, which
is told to be old. -/
def searchAs (option : String) (arguments : List Raw) : Errand Unit := do
  let name := (← get).name
  shout (lastName name ++ raw ": warning: " ++ lastName name ++ raw " is obsolescent; using grep "
    ++ raw option ++ ['\n'])
  modify fun desk => { desk with name := raw "grep" }
  search (raw option :: arguments)

end Errand

end Rehearsal

end InstallPlan

import InstallPlan.Rehearsal.Editor.Script
import InstallPlan.Rehearsal.Regex.Reading

/-!
# Rehearsal — Reading scripts of the stream editor

Reads a script character by character, so that a complaint can tell how many of
them were read. `Editor.read` gives the script or what is wrong with it.
-/

namespace InstallPlan

namespace Rehearsal

namespace Editor

/-- What can be wrong with a script. -/
inductive Flaw where
  | unterminated (what : String)
  | unknownCommand (c : Char)
  | missingCommand
  | extraCharacters
  | unexpectedComma
  | badZero
  | manyNots
  | sharpAddress
  | colonAddress
  | closeAddress
  | noLabel
  | strayClose
  | openBlock
  | expectedBackslash
  | oneAddress
  | noFile
  | unknownOption
  | twice (option : Char)
  | twoNumbers
  | zeroNumber
  | differentLengths
  | badReference (number : Nat)
  | regex (flaw : Regex.Flaw)
  | emptyWithOptions

/-- The wording of what is wrong. -/
def Flaw.message : Flaw → Raw
  | .unterminated what => "unterminated ".toList ++ what.toList
  | .unknownCommand c => "unknown command: \x60".toList ++ [c, '\x27']
  | .missingCommand => "missing command".toList
  | .extraCharacters => "extra characters after command".toList
  | .unexpectedComma => "unexpected \x60,'".toList
  | .badZero => "invalid usage of line address 0".toList
  | .manyNots => "multiple \x60!'s".toList
  | .sharpAddress => "comments don't accept any addresses".toList
  | .colonAddress => ": doesn't want any addresses".toList
  | .closeAddress => "\x7D doesn't want any addresses".toList
  | .noLabel => "\":\" lacks a label".toList
  | .strayClose => "unexpected \x60\x7D'".toList
  | .openBlock => "unmatched \x60\x7B'".toList
  | .expectedBackslash => "expected \\ after \x60a', \x60c' or \x60i'".toList
  | .oneAddress => "command only uses one address".toList
  | .noFile => "missing filename in r/R/w/W commands".toList
  | .unknownOption => "unknown option to \x60s'".toList
  | .twice option =>
    "multiple \x60".toList ++ option :: "' options to \x60s' command".toList
  | .twoNumbers => "multiple number options to \x60s' command".toList
  | .zeroNumber => "number option to \x60s' command may not be zero".toList
  | .differentLengths => "strings for \x60y' command are different lengths".toList
  | .badReference number =>
    "invalid reference \\".toList ++ Raw.ofNat number ++ " on \x60s' command's RHS".toList
  | .regex flaw => flaw.message.toList
  | .emptyWithOptions => "cannot specify modifiers on empty regexp".toList

/-- What is left of a script, and how much was read. -/
structure Cursor where
  rest : Raw
  /-- The number of characters that were read. -/
  count : Nat := 0

/-- A step of reading. -/
abbrev Reader := EStateM Flaw Cursor

namespace Reader

/-- The next character. -/
def peek? : Reader (Option Char) := return (← get).rest.head?

/-- Reads a character. -/
def next? : Reader (Option Char) := do
  match (← get).rest with
  | [] => return none
  | c :: rest =>
    modify fun cursor => { rest, count := cursor.count + 1 }
    return some c

/-- Reads the characters in front that are so. -/
def takeWhile (isSo : Char → Bool) : Reader Raw := do
  let taken := (← get).rest.takeWhile isSo
  modify fun cursor =>
    { rest := cursor.rest.drop taken.length, count := cursor.count + taken.length }
  return taken

/-- Skips characters. -/
def skip (isSo : Char → Bool) : Reader Unit := do
  let _ ← takeWhile isSo

/-- Skips blanks. -/
def skipBlanks : Reader Unit := skip fun c => c = ' ' || c = '\t'

end Reader

open Reader

/-- Reads a number. -/
def number : Reader Nat := return Escapes.ofDigits 10 (← takeWhile Char.isDigit)

/-! ## Escapes -/

/-- The letters that stand for characters in every text of a script. -/
def letters : List (Char × Char) :=
  [('a', '\x07'), ('f', '\x0C'), ('n', '\n'), ('r', '\r'), ('t', '\t'), ('v', '\x0B')]

/-- The character that an escape stands for, behind its backslash, and what
follows. -/
def escape? (text : Raw) : Option (Char × Raw) :=
  let coded (base most : Nat) (rest : Raw) : Option (Char × Raw) :=
    let digits := Escapes.digits base most rest
    if digits = [] then none
    else some (Char.ofNat (Escapes.ofDigits base digits % 256), rest.drop digits.length)
  match text with
  | 'd' :: rest => coded 10 3 rest
  | 'o' :: rest => coded 8 3 rest
  | 'x' :: rest => coded 16 2 rest
  | 'c' :: c :: rest =>
    some (Char.ofNat (c.toUpper.toNat ^^^ 64), rest)
  | c :: rest => (letters.find? (·.1 = c)).map fun e => (e.2, rest)
  | [] => none

/-- The text of an expression with its escapes replaced, in at most so many
steps. -/
def withoutEscapes : Nat → Raw → Raw
  | 0, rest => rest
  | _, [] => []
  | steps + 1, '\\' :: rest =>
    match escape? rest with
    | some (c, more) => c :: withoutEscapes steps more
    | none =>
      match rest with
      | c :: more => '\\' :: c :: withoutEscapes steps more
      | [] => ['\\']
  | steps + 1, c :: rest => c :: withoutEscapes steps rest

/-- The text that is appended, inserted or put in the place of another one. -/
def textOf : Nat → Raw → Raw
  | 0, rest => rest
  | _, [] => []
  | steps + 1, '\\' :: rest =>
    match escape? rest with
    | some (c, more) => c :: textOf steps more
    | none =>
      match rest with
      | c :: more => c :: textOf steps more
      | [] => []
  | steps + 1, c :: rest => c :: textOf steps rest

/-! ## Delimited texts -/

/-- Reads brackets of an expression behind the opening one, up to the closing one, if
that stands on the same line. -/
def inBrackets (text : Raw) : Option Raw :=
  let lead : Raw :=
    match text with
    | '^' :: ']' :: _ => ['^', ']']
    | '^' :: _ => ['^']
    | ']' :: _ => [']']
    | _ => []
  let body := (text.drop lead.length).takeWhile fun c => c ≠ ']' && c ≠ '\n'
  match (text.drop (lead.length + body.length)).head? with
  | some ']' => some (lead ++ body ++ [']'])
  | _ => none

/-- Reads up to a delimiter, in at most so many steps. A backslash in front of the
delimiter is taken away. -/
def delimited (isRegex : Bool) (mark : Char) : Nat → Reader (Option Raw)
  | 0 => return none
  | steps + 1 => do
    match ← peek? with
    | none | some '\n' => return none
    | some c =>
      let _ ← next?
      if c = mark then return some []
      else if c = '\\' then
        match ← next? with
        | none => return none
        | some d =>
          let kept : Raw :=
            if d = '\n' then ['\n']
            else if d = mark ∧ (isRegex ∨ d ≠ '&') then [d]
            else ['\\', d]
          return (← delimited isRegex mark steps).map (kept ++ ·)
      else if isRegex ∧ c = '[' then
        match inBrackets (← get).rest with
        | some inner =>
          modify fun cursor =>
            { rest := cursor.rest.drop inner.length, count := cursor.count + inner.length }
          return (← delimited isRegex mark steps).map (('[' :: inner) ++ ·)
        | none =>
          skip (· ≠ '\n')
          return none
      else return (← delimited isRegex mark steps).map (c :: ·)

/-- Reads a text up to a delimiter. -/
def textUpTo (isRegex : Bool) (mark : Char) : Reader (Option Raw) := do
  delimited isRegex mark ((← get).rest.length + 1)

/-- Reads an expression that was written. An empty one stands for the last one that
was used. -/
def matcherOf (extended : Bool) (written : Raw) (folds byLine : Bool) : Reader (Option Matcher) := do
  if written = [] then
    if folds || byLine then throw .emptyWithOptions else return none
  else
    let text := withoutEscapes (written.length + 1) written
    match Regex.read { extended, repeatsTwice := extended } text with
    | .ok regex => return some { regex, folds, byLine }
    | .error flaw => throw (.regex flaw)

/-! ## Addresses -/

/-- Reads an expression of an address behind its delimiter. -/
def matchingAddress (extended : Bool) (mark : Char) : Reader Address := do
  let some written ← textUpTo true mark | throw (.unterminated "address regex")
  let options ← takeWhile fun c => c = 'I' || c = 'M' || c = ' ' || c = '\t'
  return .matching (← matcherOf extended written (options.contains 'I') (options.contains 'M'))

/-- Reads an address. -/
def address? (extended : Bool) : Reader (Option Address) := do
  match ← peek? with
  | some '/' =>
    let _ ← next?
    return some (← matchingAddress extended '/')
  | some '\\' =>
    let _ ← next?
    match ← next? with
    | some mark => return some (← matchingAddress extended mark)
    | none => throw (.unterminated "address regex")
  | some '$' =>
    let _ ← next?
    return some .last
  | some c =>
    if c.isDigit then
      let first ← number
      skipBlanks
      if (← peek?) = some '~' then
        let _ ← next?
        skipBlanks
        let step ← number
        return some (if step = 0 then .line first else .every first step)
      else return some (.line first)
    else return none
  | none => return none

/-- Reads the end of a range. -/
def rangeEnd (extended : Bool) : Reader RangeEnd := do
  skipBlanks
  match ← peek? with
  | some '+' =>
    let _ ← next?
    return .later (← number)
  | some '~' =>
    let _ ← next?
    return .multiple (← number)
  | _ =>
    match ← address? extended with
    | some found => return .here found
    | none => throw .unexpectedComma

/-- Reads what lines a command is meant for. -/
def selection (extended : Bool) : Reader Selection := do
  let first ← address? extended
  skipBlanks
  let second ←
    if first.isSome ∧ (← peek?) = some ',' then
      let _ ← next?
      pure (some (← rangeEnd extended))
    else pure none
  skipBlanks
  match first, second with
  | some (.line 0), some (.here (.matching _)) => pure ()
  | some (.line 0), _ =>
    let _ ← next?
    throw .badZero
  | _, _ => pure ()
  if (← peek?) = some '!' then
    let _ ← next?
    skipBlanks
    if (← peek?) = some '!' then
      let _ ← next?
      throw .manyNots
    return { first, second, inverted := true }
  else return { first, second }

/-! ## Commands -/

/-- Reads the end of a command. -/
def commandEnd : Reader Unit := do
  skipBlanks
  match ← peek? with
  | none | some '\x7D' | some '#' => pure ()
  | some c =>
    let _ ← next?
    if c ≠ '\n' ∧ c ≠ ';' then throw .extraCharacters

/-- Reads the name of a file, which takes up the rest of the line. -/
def fileName : Reader Raw := do
  skipBlanks
  let name ← takeWhile (· ≠ '\n')
  if name = [] then throw .noFile
  return name

/-- Reads a label. -/
def label : Reader Raw := do
  skipBlanks
  takeWhile fun c => !isWhite c && c ≠ ';' && c ≠ '\x7D'

/-- Reads lines of text, of which all but the last end in a backslash, in at most so
many steps. -/
def lines : Nat → Reader Raw
  | 0 => return []
  | steps + 1 => do
    match ← next? with
    | none => return []
    | some '\n' => return ['\n']
    | some '\\' =>
      match ← next? with
      | none => return []
      | some c => return '\\' :: c :: (← lines steps)
    | some c => return c :: (← lines steps)

/-- Reads the text of a command. -/
def commandText : Reader Raw := do
  skipBlanks
  match ← peek? with
  | none => throw .expectedBackslash
  | some '\\' =>
    let _ ← next?
    let blanks := (← get).rest.takeWhile fun c => c = ' ' || c = '\t'
    match ((← get).rest.drop blanks.length).head? with
    | some '\n' =>
      skipBlanks
      let _ ← next?
    | _ => pure ()
  | some _ => pure ()
  if (← peek?).isNone then return []
  let length := (← get).rest.length
  let written ← lines (length + 1)
  let text := textOf (length + 1) written
  return if text.getLast? = some '\n' ∧ written.getLast? = some '\n' then text else text ++ ['\n']

/-- The parts of a replacement, in at most so many steps. -/
def partsOf : Nat → Raw → List Part
  | 0, _ => []
  | _, [] => []
  | steps + 1, '&' :: rest => .group 0 :: partsOf steps rest
  | steps + 1, '\\' :: c :: rest =>
    match c with
    | 'L' => .casing .lower :: partsOf steps rest
    | 'U' => .casing .upper :: partsOf steps rest
    | 'l' => .casing .nextLower :: partsOf steps rest
    | 'u' => .casing .nextUpper :: partsOf steps rest
    | 'E' => .casing .asIs :: partsOf steps rest
    | c =>
      if c.isDigit then .group (Escapes.digitValue c) :: partsOf steps rest
      else
        match escape? (c :: rest) with
        | some (d, more) => .text [d] :: partsOf steps more
        | none => .text [c] :: partsOf steps rest
  | steps + 1, c :: rest => .text [c] :: partsOf steps rest

/-- The greatest number of a group in a replacement. -/
def greatestGroup (parts : List Part) : Nat :=
  parts.foldl
    (fun n part =>
      match part with
      | .group number => max n number
      | _ => n)
    0

/-- What is said behind a replacement, and whether letters may be large or small, and
whether lines begin within the text. -/
structure Options where
  substitution : Substitution
  folds : Bool := false
  byLine : Bool := false
  hasNumber : Bool := false

/-- Reads what is said behind a replacement, in at most so many steps. -/
def options : Nat → Options → Reader Options
  | 0, found => return found
  | steps + 1, found => do
    let s := found.substitution
    match ← peek? with
    | none | some '\x7D' | some '#' => return found
    | some c =>
      if c.isDigit then
        if found.hasNumber then
          let _ ← next?
          throw .twoNumbers
        let n ← number
        if n = 0 then throw .zeroNumber
        options steps { found with substitution := { s with number := n }, hasNumber := true }
      else
        let _ ← next?
        match c with
        | '\n' | ';' => return found
        | ' ' | '\t' => options steps found
        | 'i' | 'I' => options steps { found with folds := true }
        | 'm' | 'M' => options steps { found with byLine := true }
        | 'e' => options steps { found with substitution := { s with evaluates := true } }
        | 'g' =>
          if s.isGlobal then throw (.twice 'g')
          options steps { found with substitution := { s with isGlobal := true } }
        | 'p' =>
          if s.prints then throw (.twice 'p')
          options steps { found with substitution := { s with prints := true } }
        | 'w' =>
          let path ← fileName
          let _ ← next?
          return { found with substitution := { s with writesTo := some path } }
        | _ => throw .unknownOption

/-- Reads a replacement. -/
def substitution (extended : Bool) : Reader Substitution := do
  let flaw : Flaw := .unterminated "\x60s' command"
  let some mark ← next? | throw flaw
  if mark = '\n' ∨ mark = '\\' then throw flaw
  let some written ← textUpTo true mark | throw flaw
  let some replacement ← textUpTo false mark | throw flaw
  let parts := partsOf (replacement.length + 1) replacement
  let found ← options ((← get).rest.length + 1) { substitution := { matcher := none, parts } }
  let matcher ← matcherOf extended written found.folds found.byLine
  match matcher with
  | some m =>
    if m.regex.groups < greatestGroup parts then throw (.badReference (greatestGroup parts))
  | none => pure ()
  return { found.substitution with matcher }

/-- The characters of a text of a translation. -/
def charactersOf : Raw → Raw
  | '\\' :: '\\' :: rest => '\\' :: charactersOf rest
  | '\\' :: c :: rest =>
    match letters.find? (·.1 = c) with
    | some (_, d) => d :: charactersOf rest
    | none => '\\' :: c :: charactersOf rest
  | c :: rest => c :: charactersOf rest
  | [] => []

/-- Reads a translation. -/
def translation : Reader (List (Char × Char)) := do
  let flaw : Flaw := .unterminated "\x60y' command"
  let some mark ← next? | throw flaw
  let some from' ← textUpTo false mark | throw flaw
  let some target ← textUpTo false mark | throw flaw
  let pairs := (charactersOf from', charactersOf target)
  if pairs.1.length ≠ pairs.2.length then throw .differentLengths
  commandEnd
  return pairs.1.zip pairs.2

/-- Reads a command without a text or a name. -/
def plain (action : Action) : Reader Action := do
  commandEnd
  return action

/-- Reads what a command does, behind its letter. -/
def action (extended : Bool) (selection : Selection) (letter : Char) : Reader Action := do
  let status : Reader Nat := do
    if selection.second.isSome then throw .oneAddress
    skipBlanks
    let n ← number
    commandEnd
    return n
  match letter with
  | '=' => plain .sayNumber
  | 'a' => return .append (← commandText)
  | 'i' => return .insert (← commandText)
  | 'c' => return .change (← commandText)
  | 'b' => return .jump .always (← label)
  | 't' => return .jump .replaced (← label)
  | 'T' => return .jump .notReplaced (← label)
  | 'd' => plain .delete
  | 'D' => plain .deleteLine
  | 'e' =>
    skipBlanks
    return .run (← takeWhile (· ≠ '\n'))
  | 'F' => plain .sayName
  | 'g' => plain (.takeHeld false)
  | 'G' => plain (.takeHeld true)
  | 'h' => plain (.hold false)
  | 'H' => plain (.hold true)
  | 'x' => plain .exchange
  | 'l' =>
    skipBlanks
    let digits ← takeWhile Char.isDigit
    plain (.list (if digits = [] then none else some (Escapes.ofDigits 10 digits)))
  | 'n' => plain .next
  | 'N' => plain .nextAdded
  | 'p' => plain .print
  | 'P' => plain .printLine
  | 'q' => return .quit false (← status)
  | 'Q' => return .quit true (← status)
  | 'r' => return .readFile (← fileName)
  | 'R' => return .readLine (← fileName)
  | 'w' => return .write (← fileName)
  | 'W' => return .writeLine (← fileName)
  | 's' => return .substitute (← substitution extended)
  | 'y' => return .translate (← translation)
  | 'z' => plain .clear
  | 'v' =>
    let _ ← label
    plain .nothing
  | c => throw (.unknownCommand c)

/-- Reads the commands of a script, in at most so many steps. Of blocks that are open,
the numbers of the commands that open them are given. -/
def commands (extended : Bool) : Nat → List Nat → Script → Reader Script
  | 0, _, script => return script
  | steps + 1, blocks, script => do
    skip fun c => isWhite c || c = ';'
    let isFirst := (← get).count = 0
    if (← peek?).isNone then
      if blocks ≠ [] then
        modify fun cursor => { cursor with count := 0 }
        throw .openBlock
      return script
    let selection ← selection extended
    let add (action : Action) : Script :=
      { script with commands := script.commands.push { selection, action } }
    let number := script.commands.size
    match ← next? with
    | none => throw .missingCommand
    | some '#' =>
      if selection.first.isSome then throw .sharpAddress
      let text ← takeWhile (· ≠ '\n')
      commands extended steps blocks
        { script with isQuiet := script.isQuiet || (isFirst && text = ['n']) }
    | some ':' =>
      if selection.first.isSome then throw .colonAddress
      let name ← label
      if name = [] then throw .noLabel
      commands extended steps blocks { script with labels := (name, number) :: script.labels }
    | some '\x7B' => commands extended steps (number :: blocks) (add (.block 0))
    | some '\x7D' =>
      match blocks with
      | [] => throw .strayClose
      | start :: outer =>
        if selection.first.isSome then throw .closeAddress
        commandEnd
        let closed := script.commands.modify start fun command =>
          { command with action := .block number }
        commands extended steps outer { script with commands := closed }
    | some c => commands extended steps blocks (add (← action extended selection c))

/-- Reads a script, or tells what is wrong with it and how many characters were
read. -/
def read (extended : Bool) (text : Raw) : Except (Flaw × Nat) Script :=
  match commands extended (text.length + 1) [] {} { rest := text } with
  | .ok script _ => .ok script
  | .error flaw cursor => .error (flaw, cursor.count)

end Editor

end Rehearsal

end InstallPlan
